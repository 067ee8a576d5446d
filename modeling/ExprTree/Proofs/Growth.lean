import ExprTree.Proofs.Preservation
import ExprTree.Proofs.Reachability

/-!
Tables only grow, and at the end: whatever an action does, and whether or not it succeeds, every
entry of every table stays where it is, and each interner keeps its strings under their names. So all
that a workspace held, it holds after any run of actions, at the same place.
-/

namespace ExprTree

set_option autoImplicit false

namespace KeptBy

variable {Item : Type} {relation : Item → Item → Prop} {before between after : Array Item}

theorem refl (same : ∀ item, relation item item) (items : Array Item) :
    KeptBy relation items items := by
  intro position item found
  exact ⟨item, found, same item⟩

theorem trans (chained : ∀ {first second third}, relation first second → relation second third →
    relation first third) (first : KeptBy relation before between)
    (second : KeptBy relation between after) : KeptBy relation before after := by
  intro position item found
  obtain ⟨middle, foundMiddle, related⟩ := first position item found
  obtain ⟨last, foundLast, relatedLast⟩ := second position middle foundMiddle
  exact ⟨last, foundLast, chained related relatedLast⟩

theorem push (same : ∀ item, relation item item) (items : Array Item) (added : Item) :
    KeptBy relation items (items.push added) := by
  intro position item found
  have inside := (Array.getElem?_eq_some_iff.1 found).1
  refine ⟨item, ?_, same item⟩
  rw [Array.getElem?_push, if_neg (Nat.ne_of_lt inside)]
  exact found

theorem set {items : Array Item} {number : Nat} {own changed : Item}
    (same : ∀ item, relation item item) (held : items[number]? = some own)
    (related : relation own changed) :
    KeptBy relation items (items.setIfInBounds number changed) := by
  intro position item found
  have inside := (Array.getElem?_eq_some_iff.1 found).1
  rw [Array.getElem?_setIfInBounds]
  by_cases here : number = position
  · rw [here, found] at held
    cases held
    rw [if_pos here, if_pos (here ▸ inside)]
    exact ⟨changed, rfl, related⟩
  · rw [if_neg here]
    exact ⟨item, found, same item⟩

theorem of_prefix (starts : before.toList <+: after.toList) : KeptBy Eq before after := by
  intro position item found
  obtain ⟨more, same⟩ := starts
  have inside := (Array.getElem?_eq_some_iff.1 found).1
  refine ⟨item, ?_, rfl⟩
  rw [← Array.getElem?_toList, ← same, List.getElem?_append_left inside, Array.getElem?_toList]
  exact found

end KeptBy

namespace ListTable

variable {α : Type}

def append (table : ListTable α) (items : List α) : ListTable α := ⟨table.entries ++ items⟩

theorem append_nil (table : ListTable α) : table.append [] = table := by
  simp [append]

theorem size_append (table : ListTable α) (items : List α) :
    (table.append items).size = table.size + items.length := by
  rw [size, append, ← Array.length_toList, Array.toList_appendList, List.length_append,
    Array.length_toList, size]

/-- How storing a list ends. An empty list is not stored; a list that is too long is stored without
a span that leads to it; and a table that is full stays as it is. -/
inductive PushEnds (table : ListTable α) :
    List α → ListTable α × Except Failure (Span α) → Prop where
  | nothing : PushEnds table [] (table, .ok .empty)
  | stored {items : List α} {span : Span α} (filled : items ≠ [])
      (room : table.size < UInt32.size) (first : span.first = table.size)
      (size : span.size = items.length) : PushEnds table items (table.append items, .ok span)
  | tooLong {items : List α} (room : table.size < UInt32.size)
      (long : UInt16.size ≤ items.length) :
      PushEnds table items (table.append items, .error (.tooLong items.length))
  | full {items : List α} (filled : items ≠ []) (past : UInt32.size ≤ table.size) :
      PushEnds table items (table, .error (.full table.size))

theorem push_ends (table : ListTable α) (items : List α) :
    table.PushEnds items (table.push items) := by
  obtain ⟨entries⟩ := table
  simp only [push]
  split
  case isTrue nothing =>
    rw [List.isEmpty_iff] at nothing
    rw [nothing]
    exact .nothing
  case isFalse some =>
    have filled : items ≠ [] := by simpa using some
    split
    case isFalse past => exact .full filled (Nat.le_of_not_lt past)
    case isTrue room =>
      split
      case isTrue short =>
        exact .stored filled room (UInt32.toNat_ofNat_of_lt' room)
          (UInt16.toNat_ofNat_of_lt' short)
      case isFalse long => exact .tooLong room (Nat.le_of_not_lt long)

theorem push_extends (table : ListTable α) (items : List α) :
    table.Extends (table.push items).1 := by
  have appended : table.Extends (table.append items) := by
    rw [Extends, append, Array.toList_appendList]
    exact List.prefix_append _ _
  have ends := table.push_ends items
  generalize table.push items = result at ends
  cases ends with
  | nothing => exact List.prefix_refl _
  | stored => exact appended
  -- Also the entries of a list that is too long are added.
  | tooLong => exact appended
  | full => exact List.prefix_refl _

end ListTable

namespace Interner

def Extends (before after : Interner) : Prop := before.strings.toList <+: after.strings.toList

theorem intern_extends (interner : Interner) (text : String) :
    interner.Extends (interner.intern text).1 := by
  rcases interner.intern_changes text with same | ⟨_, _, new⟩
  · rw [same]
    exact List.prefix_refl _
  · rw [new, Extends, Array.toList_push]
    exact List.prefix_append _ _

theorem Extends.lookup {before after : Interner} (grown : before.Extends after) {name : Name}
    {text : String} (found : before.lookup? name = some text) : after.lookup? name = some text := by
  obtain ⟨_, later, rfl⟩ := KeptBy.of_prefix grown _ _ found
  exact later

end Interner

/-- The second arena has the nodes and lists of the first one, and maybe more behind them. Its kinds
and types are parallel exactly if they were so before. -/
structure Arena.Extends (before after : Arena) : Prop where
  kinds : before.kinds.toList <+: after.kinds.toList
  types : before.types.toList <+: after.types.toList
  childLists : before.childLists.Extends after.childLists
  memberLists : before.memberLists.Extends after.memberLists
  aligned : before.types.size = before.kinds.size ↔ after.types.size = after.kinds.size

namespace Arena

theorem Extends.refl (arena : Arena) : arena.Extends arena :=
  ⟨List.prefix_refl _, List.prefix_refl _, List.prefix_refl _, List.prefix_refl _, .rfl⟩

theorem Extends.trans {before between after : Arena} (first : before.Extends between)
    (second : between.Extends after) : before.Extends after where
  kinds := first.kinds.trans second.kinds
  types := first.types.trans second.types
  childLists := List.IsPrefix.trans first.childLists second.childLists
  memberLists := List.IsPrefix.trans first.memberLists second.memberLists
  aligned := first.aligned.trans second.aligned

theorem push_extends (arena : Arena) (node : Node) : arena.Extends (arena.push node).1 := by
  obtain ⟨kinds, types, childLists, memberLists⟩ := arena
  simp only [Arena.push]
  split
  case isTrue =>
    constructor
    · simp
    · simp
    · exact List.prefix_refl _
    · exact List.prefix_refl _
    · simp
  case isFalse => exact Extends.refl _

theorem push_children_extends (arena : Arena) (children : List NodeId) :
    arena.Extends (arena.pushChildren children).1 := by
  obtain ⟨kinds, types, childLists, memberLists⟩ := arena
  exact { Extends.refl _ with childLists := childLists.push_extends children }

theorem push_members_extends (arena : Arena) (members : List MemberId) :
    arena.Extends (arena.pushMembers members).1 := by
  obtain ⟨kinds, types, childLists, memberLists⟩ := arena
  exact { Extends.refl _ with memberLists := memberLists.push_extends members }

end Arena

structure Forest.Extends (before after : Forest) : Prop where
  arena : before.arena.Extends after.arena
  names : before.names.Extends after.names
  home : after.home = before.home

namespace Forest

variable {before between after : Forest}

theorem Extends.trans (first : before.Extends between) (second : between.Extends after) :
    before.Extends after where
  arena := first.arena.trans second.arena
  names := List.IsPrefix.trans first.names second.names
  home := second.home.trans first.home

theorem Extends.kept (grown : before.Extends after) : before.KeptIn after where
  kinds := by
    intro position kind found
    obtain ⟨_, later, rfl⟩ := KeptBy.of_prefix grown.arena.kinds _ _ found
    refine ⟨kind, later, ExprKind.renamed_self ?_⟩
    intro name _ text named
    rw [text_ok_iff] at named ⊢
    exact grown.names.lookup named
  types := KeptBy.of_prefix grown.arena.types
  childLists := grown.arena.childLists
  memberLists := grown.arena.memberLists

end Forest

namespace Build

variable {Result : Type}

theorem intern_extends (text : String) : (intern text).Respects Forest.Extends := by
  intro forest
  exact ⟨Arena.Extends.refl _, forest.names.intern_extends text, rfl⟩

theorem on_arena_extends {change : Arena → Arena × Except Arena.PushError Result}
    (grows : ∀ arena : Arena, arena.Extends (change arena).1) :
    (onArena change).Respects Forest.Extends := by
  intro forest
  exact ⟨grows forest.arena, List.prefix_refl _, rfl⟩

theorem Additive.extends {build : Build Result} (additive : build.Additive) :
    build.Respects Forest.Extends :=
  additive.respects Forest.Extends.trans intern_extends
    (fun _ _ => on_arena_extends fun arena => arena.push_extends _)
    (fun _ => on_arena_extends fun arena => arena.push_children_extends _)
    (fun _ => on_arena_extends fun arena => arena.push_members_extends _)

end Build

namespace Workspace

structure Extends (before after : Workspace) : Prop where
  interners : KeptBy Interner.Extends before.interners after.interners
  handles : KeptBy Eq before.handles after.handles
  arenas : KeptBy (fun old new => old.1.Extends new.1 ∧ new.2 = old.2) before.arenas after.arenas

namespace Extends

variable {before between after : Workspace}

theorem interner_self (interner : Interner) : interner.Extends interner := List.prefix_refl _

theorem arena_self (held : Arena × InternerId) : held.1.Extends held.1 ∧ held.2 = held.2 :=
  ⟨.refl _, rfl⟩

theorem refl (workspace : Workspace) : workspace.Extends workspace where
  interners := .refl interner_self _
  handles := .refl Eq.refl _
  arenas := .refl arena_self _

theorem trans (first : before.Extends between) (second : between.Extends after) :
    before.Extends after where
  interners := first.interners.trans List.IsPrefix.trans second.interners
  handles := first.handles.trans Eq.trans second.handles
  arenas :=
    first.arenas.trans (fun earlier later => ⟨earlier.1.trans later.1, later.2.trans earlier.2⟩)
      second.arenas

end Extends

theorem on_forest_extends {Result : Type} (workspace : Workspace) (handle : ArenaHandle)
    {change : Build Result} (grows : change.Respects Forest.Extends) :
    workspace.Extends (workspace.onForest handle change).1 := by
  obtain ⟨interners, handles, arenas⟩ := workspace
  simp only [onForest]
  split
  case h_1 => exact .refl _
  case h_2 arena home found =>
    split
    case h_1 => exact .refl _
    case h_2 names held =>
      have grown := grows ⟨arena, names, home⟩
      simp only [Array.setIfInBounds_setIfInBounds]
      exact ⟨.set Extends.interner_self held grown.names, .refl Eq.refl _,
        .set Extends.arena_self found ⟨grown.arena, rfl⟩⟩

theorem on_interner_extends {Result : Type} (workspace : Workspace) (handle : InternerHandle)
    {change : Interner → Interner × Except InternError Result}
    (grows : ∀ interner : Interner, interner.Extends (change interner).1) :
    workspace.Extends (workspace.onInterner handle change).1 := by
  obtain ⟨interners, handles, arenas⟩ := workspace
  simp only [onInterner]
  split
  case h_1 => exact .refl _
  case h_2 id found =>
    split
    case h_1 => exact .refl _
    case h_2 names held =>
      simp only [Array.setIfInBounds_setIfInBounds]
      exact ⟨.set Extends.interner_self held (grows names), .refl Eq.refl _,
        .refl Extends.arena_self _⟩

theorem tracks_extends : Tracks Extends where
  unchanged := .refl
  chained := .trans
  addInterner workspace interner _ :=
    { Extends.refl workspace with interners := .push Extends.interner_self _ interner }
  addHandle workspace id := { Extends.refl workspace with handles := .push Eq.refl _ id }
  addArena workspace arena home :=
    { Extends.refl workspace with arenas := .push Extends.arena_self _ (arena, home) }
  interned workspace handle text :=
    workspace.on_interner_extends handle fun interner => interner.intern_extends text
  built workspace handle _ additive := workspace.on_forest_extends handle additive.extends

end Workspace

end ExprTree
