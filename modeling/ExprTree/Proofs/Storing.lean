import ExprTree.Proofs.Growth

/-!
What a construction stores. All of them go the same way: the string, if there is one, is interned,
the lists are stored, the children before the members, and then the node is added, which refers to
what was stored. A construction fails only where a table or the interner is full, or a list is too
long for a span.
-/

namespace ExprTree

set_option autoImplicit false

namespace ListTable

variable {α : Type}

theorem push_ok {table grown : ListTable α} {items : List α} {span : Span α}
    (pushed : table.push items = (grown, .ok span)) :
    grown.Inside span ∧ grown.run span = items := by
  have ends := table.push_ends items
  rw [pushed] at ends
  cases ends with
  | nothing => exact ⟨.inl rfl, rfl⟩
  | stored filled room first size =>
      constructor
      · apply Or.inr
        exact Nat.le_of_eq (by rw [Span.stop, first, size, size_append])
      · simp [run, append, ListTable.size, first, size]

theorem push_answers {table : ListTable α} {items : List α} (room : table.size < UInt32.size)
    (short : items.length < UInt16.size) :
    ∃ span, table.push items = (table.append items, .ok span) := by
  have ends := table.push_ends items
  generalize table.push items = result at ends
  cases ends with
  | nothing => exact ⟨.empty, by rw [append_nil]⟩
  | stored => exact ⟨_, rfl⟩
  | tooLong _ long => exact absurd short (Nat.not_lt_of_le long)
  | full _ past => exact absurd room (Nat.not_lt_of_le past)

end ListTable

namespace Build

variable {Result Next : Type} {forest grown : Forest}

theorem bind_run_ok_iff {first : Build Result} {next : Result → Build Next} {result : Next} :
    (first >>= next).run forest = (.ok result, grown) ↔
      ∃ item between, first.run forest = (.ok item, between) ∧
        (next item).run between = (.ok result, grown) := by
  rw [run_bind]
  constructor
  · intro ran
    split at ran
    case h_1 item between stored => exact ⟨item, between, stored, ran⟩
    case h_2 => cases ran
  · intro ⟨item, between, stored, ran⟩
    rw [stored]
    exact ran

def internAny : Option String → Build Name
  | none => pure .empty
  | some text => intern text

theorem intern_any_ok {text? : Option String} {name : Name}
    (ran : (internAny text?).run forest = (.ok name, grown)) :
    ∃ names, (∀ text ∈ text?, forest.names.intern text = (names, .ok name)) ∧
      grown = { forest with names := names } := by
  cases text? with
  | none =>
      cases ran
      exact ⟨forest.names, by simp, rfl⟩
  | some text =>
      have interned : (internAny (some text)).run forest =
          ((forest.names.intern text).2.mapError .intern,
            { forest with names := (forest.names.intern text).1 }) := rfl
      rw [interned, Prod.mk.injEq, map_error_ok_iff] at ran
      obtain ⟨answered, rfl⟩ := ran
      refine ⟨(forest.names.intern text).1, ?_, rfl⟩
      intro other same
      cases same
      exact Prod.ext rfl answered

theorem intern_any_answers (text? : Option String) (room : forest.names.size < Interner.capacity) :
    ∃ name names, (internAny text?).run forest = (.ok name, { forest with names := names }) := by
  cases text? with
  | none => exact ⟨.empty, forest.names, rfl⟩
  | some text =>
      obtain ⟨name, answered⟩ := Interner.intern_answers text room
      refine ⟨name, (forest.names.intern text).1, Prod.ext ?_ rfl⟩
      exact map_error_ok_iff.2 answered

/-- A build that puts the list into one of the tables of the forest, and does nothing else. -/
def Stores {α : Type} (store : Build (Span α)) (table : Forest → ListTable α)
    (put : Forest → ListTable α → Forest) (items : List α) : Prop :=
  ∃ wrap, ∀ forest, store.run forest =
    ((((table forest).push items).2.mapError wrap).mapError .push,
      put forest ((table forest).push items).1)

theorem children_stores (items : List NodeId) :
    (children items).Stores (fun forest => forest.arena.childLists)
      (fun forest table => { forest with arena.childLists := table }) items :=
  ⟨_, fun _ => rfl⟩

theorem members_stores (items : List MemberId) :
    (members items).Stores (fun forest => forest.arena.memberLists)
      (fun forest table => { forest with arena.memberLists := table }) items :=
  ⟨_, fun _ => rfl⟩

namespace Stores

variable {α : Type} {store : Build (Span α)} {table : Forest → ListTable α}
  {put : Forest → ListTable α → Forest} {items : List α} {span : Span α}

theorem ok (stores : store.Stores table put items)
    (ran : store.run forest = (.ok span, grown)) :
    ∃ next, (table forest).push items = (next, .ok span) ∧ grown = put forest next := by
  obtain ⟨wrap, runs⟩ := stores
  rw [runs, Prod.mk.injEq, map_error_ok_iff, map_error_ok_iff] at ran
  obtain ⟨answered, rfl⟩ := ran
  exact ⟨_, Prod.ext rfl answered, rfl⟩

theorem answers (stores : store.Stores table put items)
    (room : (table forest).size < UInt32.size) (short : items.length < UInt16.size) :
    ∃ span next, store.run forest = (.ok span, put forest next) := by
  obtain ⟨wrap, runs⟩ := stores
  obtain ⟨span, pushed⟩ := ListTable.push_answers room short
  refine ⟨span, (table forest).append items, ?_⟩
  rw [runs, pushed]
  rfl

end Stores

theorem node_run (kind : ExprKind) (type : TypeId) :
    (node kind type).run forest =
      if forest.arena.size < UInt32.size then
        (.ok ⟨.ofNat forest.arena.size⟩,
          { forest with
            arena.kinds := forest.arena.kinds.push kind
            arena.types := forest.arena.types.push type })
      else (.error (.push (.tooManyNodes forest.arena.size)), forest) := by
  have added : (node kind type).run forest =
      ((forest.arena.push ⟨kind, type⟩).2.mapError .push,
        { forest with arena := (forest.arena.push ⟨kind, type⟩).1 }) := rfl
  have pushed : forest.arena.push ⟨kind, type⟩ =
      if forest.arena.size < UInt32.size then
        ({ forest.arena with
            kinds := forest.arena.kinds.push kind
            types := forest.arena.types.push type }, .ok ⟨.ofNat forest.arena.size⟩)
      else (forest.arena, .error (.tooManyNodes forest.arena.size)) := rfl
  rw [added, pushed]
  split <;> rfl

theorem node_answers (kind : ExprKind) (type : TypeId) (room : forest.arena.size < UInt32.size) :
    ∃ id grown, (node kind type).run forest = (.ok id, grown) := by
  rw [node_run, if_pos room]
  exact ⟨_, _, rfl⟩

theorem node_ok {kind : ExprKind} {type : TypeId} {id : NodeId}
    (ran : (node kind type).run forest = (.ok id, grown)) :
    forest.arena.size < UInt32.size ∧ id = ⟨.ofNat forest.arena.size⟩ ∧
      grown = { forest with
        arena.kinds := forest.arena.kinds.push kind
        arena.types := forest.arena.types.push type } := by
  rw [node_run] at ran
  split at ran
  case isTrue room =>
    cases ran
    exact ⟨room, rfl, rfl⟩
  case isFalse => cases ran

end Build

structure Forest.HasRoom (forest : Forest) : Prop where
  nodes : forest.arena.size < UInt32.size
  childLists : forest.arena.childLists.size < UInt32.size
  memberLists : forest.arena.memberLists.size < UInt32.size
  names : forest.names.size < Interner.capacity

namespace Construction

def text? : Construction → Option String
  | .string text | .parameter text _ => some text
  | _ => none

/-- The children that are stored as a list; so with the members. -/
def list : Construction → List NodeId
  | .call _ _ list _ | .invoke _ list _ | .new _ list _ _ | .newArray list _
  | .newArrayBounds list _ | .lambda _ list _ => list
  | _ => []

def bound : Construction → List MemberId
  | .new _ _ bound _ => bound
  | _ => []

def type : Construction → TypeId
  | .int _ => .int
  | .float _ => .double
  | .bool _ | .typeIs _ _ => .bool
  | .string _ => .string
  | .constant _ type | .null type | .parameter _ type | .member _ _ type | .call _ _ _ type
  | .invoke _ _ type | .binary _ _ _ _ type | .unary _ _ _ type | .conditional _ _ _ type
  | .new _ _ _ type | .newArray _ type | .newArrayBounds _ type | .lambda _ _ type => type

/-- The kind of the node that is added when the string has the name and the lists have the spans. -/
def kind (name : Name) (range : NodeRange) (members : MemberRange) : Construction → ExprKind
  | .constant value _ => .constant value
  | .int value => .constant (.int value)
  | .float bits => .constant (.float bits)
  | .bool value => .constant (.bool value)
  | .string _ => .constant (.text name)
  | .null _ => .constant .null
  | .parameter _ _ => .parameter name
  | .member target id _ => .memberAccess (target.getD .absent) id
  | .call target method _ _ => .methodCall (target.getD .absent) method range
  | .invoke callee _ _ => .invoke callee range
  | .typeIs operand tested => .typeIs operand tested
  | .binary op left right info _ => .binary op left right info
  | .unary op operand info _ => .unary op operand info
  | .conditional test ifTrue ifFalse _ => .conditional test ifTrue ifFalse
  | .new ctor _ _ _ => .new ctor range members
  | .newArray _ _ => .newArrayInit range
  | .newArrayBounds _ _ => .newArrayBounds range
  | .lambda body _ _ => .lambda body range

/-- Every construction is of this form: to store an empty list is to do nothing. -/
theorem build_eq (construction : Construction) :
    construction.build = (do
      let name ← Build.internAny construction.text?
      let range ← Build.children construction.list
      let members ← Build.members construction.bound
      Build.node (construction.kind name range members) construction.type) := by
  cases construction <;> rfl

/-- What building a node has come to: the string has the name, the lists have their spans, and the
node is the last one. -/
structure Stored (construction : Construction) (before grown : Forest) (id : NodeId) (name : Name)
    (range : NodeRange) (members : MemberRange) : Prop where
  room : before.arena.size < UInt32.size
  number : id = ⟨.ofNat before.arena.size⟩
  kinds : grown.arena.kinds = before.arena.kinds.push (construction.kind name range members)
  types : grown.arena.types = before.arena.types.push construction.type
  named : ∀ text ∈ construction.text?, before.names.intern text = (grown.names, .ok name)
  listInside : grown.arena.childLists.Inside range
  list : grown.arena.entries range = construction.list
  boundInside : grown.arena.memberLists.Inside members
  bound : grown.arena.memberLists.run members = construction.bound

theorem stored_of_build {construction : Construction} {before grown : Forest} {id : NodeId}
    (ran : construction.build.run before = (.ok id, grown)) :
    ∃ name range members, construction.Stored before grown id name range members := by
  rw [build_eq] at ran
  obtain ⟨name, withName, interned, ran⟩ := Build.bind_run_ok_iff.1 ran
  obtain ⟨range, withList, listed, ran⟩ := Build.bind_run_ok_iff.1 ran
  obtain ⟨members, withBound, bound, ran⟩ := Build.bind_run_ok_iff.1 ran
  obtain ⟨names, named, rfl⟩ := Build.intern_any_ok interned
  obtain ⟨childLists, pushed, rfl⟩ := (Build.children_stores _).ok listed
  obtain ⟨memberLists, pushedBound, rfl⟩ := (Build.members_stores _).ok bound
  obtain ⟨room, rfl, rfl⟩ := Build.node_ok ran
  obtain ⟨listInside, list⟩ := ListTable.push_ok pushed
  obtain ⟨boundInside, bound⟩ := ListTable.push_ok pushedBound
  exact ⟨name, range, members, room, rfl, rfl, rfl, named, listInside, list, boundInside, bound⟩

theorem build_answers {construction : Construction} {before : Forest} (room : before.HasRoom)
    (list : construction.list.length < UInt16.size)
    (bound : construction.bound.length < UInt16.size) :
    ∃ id grown, construction.build.run before = (.ok id, grown) := by
  obtain ⟨name, interner, interned⟩ := Build.intern_any_answers construction.text? room.names
  let withName : Forest := { before with names := interner }
  have roomForList : withName.arena.childLists.size < UInt32.size := room.childLists
  obtain ⟨range, table, listed⟩ := (Build.children_stores _).answers roomForList list
  let withList : Forest := { withName with arena.childLists := table }
  have roomForBound : withList.arena.memberLists.size < UInt32.size := room.memberLists
  obtain ⟨members, others, bounded⟩ := (Build.members_stores _).answers roomForBound bound
  let withBound : Forest := { withList with arena.memberLists := others }
  have roomForNode : withBound.arena.size < UInt32.size := room.nodes
  obtain ⟨id, grown, added⟩ := Build.node_answers (construction.kind name range members)
    construction.type roomForNode
  refine ⟨id, grown, ?_⟩
  rw [build_eq]
  exact Build.bind_run_ok_iff.2 ⟨name, withName, interned, Build.bind_run_ok_iff.2 ⟨range, withList,
    listed, Build.bind_run_ok_iff.2 ⟨members, withBound, bounded, added⟩⟩⟩

theorem build_extends {construction : Construction} {before grown : Forest} {id : NodeId}
    (ran : construction.build.run before = (.ok id, grown)) : before.Extends grown := by
  have additions := (Build.construction_additive construction).extends before
  rw [ran] at additions
  exact additions

theorem kind_named {construction : Construction} {text : String}
    (spelled : construction.text? = some text)
    (name : Name) (range : NodeRange) (members : MemberRange) :
    (construction.kind name range members).name? = some name := by
  cases construction with
  | string text => rfl
  | parameter text type => rfl
  | _ => cases spelled

end Construction

namespace Workspace

variable {workspace : Workspace} {handle : ArenaHandle} {forest : Forest}

theorem on_forest_held {Result : Type} (held : workspace.forest? handle = some forest)
    {change : Build Result} (additive : change.Additive) :
    (workspace.onForest handle change).1.forest? handle = some (change.run forest).2 := by
  have home : (change.run forest).2.home = forest.home := (additive.extends forest).home
  obtain ⟨found, named⟩ := forest_held_iff.1 held
  have arenaInside := (Array.getElem?_eq_some_iff.1 found).1
  have namesInside := (Array.getElem?_eq_some_iff.1 named).1
  rw [on_forest_eq held, forest_held_iff, home]
  simp only [Array.getElem?_setIfInBounds, if_pos, arenaInside, namesInside, and_self]

/-- A build in a held forest that was answered gave this, and what it left is held. -/
theorem on_forest_ok {Result : Type} (held : workspace.forest? handle = some forest)
    {change : Build Result} (additive : change.Additive) {item : Result}
    (answered : (workspace.onForest handle change).2 = .ok item) :
    ∃ grown, change.run forest = (.ok item, grown) ∧
      (workspace.onForest handle change).1.forest? handle = some grown := by
  have heldAfter := on_forest_held held additive
  rw [on_forest_eq held] at answered
  exact ⟨_, Prod.ext (map_error_ok_iff.1 answered) rfl, heldAfter⟩

theorem build_answer (held : workspace.forest? handle = some forest)
    (construction : Construction) :
    (workspace.perform (.build handle construction)).2 =
      ((construction.build.run forest).1.mapError .refused).map .node := by
  simp only [perform, on_forest_eq held]

theorem built_ok {construction : Construction} {id : NodeId}
    (held : workspace.forest? handle = some forest)
    (answered : (workspace.perform (.build handle construction)).2 = .ok (.node id)) :
    ∃ grown, construction.build.run forest = (.ok id, grown) ∧
      (workspace.perform (.build handle construction)).1.forest? handle = some grown := by
  obtain ⟨node, built, same⟩ := map_ok_iff.1 answered
  cases same
  exact on_forest_ok held (Build.construction_additive construction) built

end Workspace

end ExprTree
