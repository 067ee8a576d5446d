import ExprTree.Proofs.Stability
import ExprTree.Proofs.Storing
import ExprTree.Proofs.Totality
import Mathlib.Data.List.Induction

/-!
The kinds and the types of nodes stand in two tables, and one number leads into both. An arena
starts with none of either, and adding a node adds to both. So what an arena stems from decides
whether its tables are parallel, and only a document can give tables of different lengths. Where
the tables are parallel, a pushed node has its kind and its type ever after. Where they are not, the
type of a pushed node stands at another number.
-/

namespace ExprTree

set_option autoImplicit false

def Arena.Parallel (arena : Arena) : Prop := arena.types.size = arena.kinds.size

namespace Arena

variable {arena : Arena} {id : NodeId}

theorem empty_parallel : Parallel {} := rfl

/-- The type that is read back for the node behind the others is the one it was pushed with,
whatever that was, exactly if the tables are parallel. -/
theorem parallel_iff_type_kept (last : id.index = arena.kinds.size) :
    arena.Parallel ↔ ∀ type, (arena.types.push type)[id.index]? = some type := by
  rw [Parallel, last]
  constructor
  · intro parallel type
    rw [← parallel, Array.getElem?_push_size]
  · intro kept
    -- Two types tell an old entry at this place from the one that was pushed.
    have ofInt := kept .int
    have ofBool := kept .bool
    rw [Array.getElem?_push] at ofInt ofBool
    by_contra apart
    rw [if_neg (Ne.symm apart)] at ofInt ofBool
    rw [ofInt] at ofBool
    cases ofBool

end Arena

namespace Workspace

variable {workspace : Workspace} {handle : ArenaHandle} {forest : Forest} {node : Node}
  {id : NodeId}

inductive Begins (workspace : Workspace) : Action → Arena → Prop where
  | new (interner? : Option InternerHandle) : Begins workspace (.newArena interner?) {}
  | copy {source : ArenaHandle} {arena : Arena} {home : InternerId}
      (original : workspace.arenas[source.number]? = some (arena, home)) :
      Begins workspace (.copyArena source) arena
  | read {document : Document} {forest : Forest}
      (read : Forest.ofDocument ⟨workspace.interners.size⟩ document = .ok forest) :
      Begins workspace (.readArena document) forest.arena

/-- After a run of actions, what the arena of a handle has grown from: an empty arena, or what a
document was read as. A copy has grown from what its original had. -/
inductive StemsFrom : List Action → ArenaHandle → Arena → Prop where
  | new {actions : List Action} {interner? : Option InternerHandle} {handle : ArenaHandle}
      (made : ((performAll {} actions).perform (.newArena interner?)).2 = .ok (.arena handle)) :
      StemsFrom (actions ++ [.newArena interner?]) handle {}
  | read {actions : List Action} {document : Document} {handle : ArenaHandle} {forest : Forest}
      (read : Forest.ofDocument ⟨(performAll {} actions).interners.size⟩ document = .ok forest)
      (made : ((performAll {} actions).perform (.readArena document)).2 = .ok (.arena handle)) :
      StemsFrom (actions ++ [.readArena document]) handle forest.arena
  | copy {actions : List Action} {source handle : ArenaHandle} {base : Arena}
      (original : StemsFrom actions source base)
      (made : ((performAll {} actions).perform (.copyArena source)).2 = .ok (.arena handle)) :
      StemsFrom (actions ++ [.copyArena source]) handle base
  | later {actions : List Action} {handle : ArenaHandle} {base : Arena}
      (earlier : StemsFrom actions handle base) (action : Action) :
      StemsFrom (actions ++ [action]) handle base

theorem on_forest_arenas_size {Result : Type} (workspace : Workspace) (handle : ArenaHandle)
    (change : Build Result) :
    (workspace.onForest handle change).1.arenas.size = workspace.arenas.size := by
  obtain ⟨interners, handles, arenas⟩ := workspace
  simp only [onForest]
  split
  · rfl
  · split
    · rfl
    · exact Array.size_setIfInBounds.trans Array.size_setIfInBounds

theorem on_interner_arenas {Result : Type} (workspace : Workspace) (handle : InternerHandle)
    (change : Interner → Interner × Except InternError Result) :
    (workspace.onInterner handle change).1.arenas = workspace.arenas := by
  obtain ⟨interners, handles, arenas⟩ := workspace
  simp only [onInterner]
  split
  · rfl
  · split <;> rfl

/-- Either the action makes no arena, or it makes one, which gets the next number. -/
def MakesAtMostOne (workspace : Workspace) (action : Action) : Prop :=
  ((workspace.perform action).1.arenas.size = workspace.arenas.size ∧
    ∀ handle, (workspace.perform action).2 ≠ .ok (.arena handle)) ∨
  ∃ base home, workspace.Begins action base ∧
    (workspace.perform action).1.arenas = workspace.arenas.push (base, home) ∧
    (workspace.perform action).2 = .ok (.arena ⟨workspace.arenas.size⟩)

theorem makes_none_of_forest {Result : Type} {action : Action} {handle : ArenaHandle}
    (change : Build Result) (reply : Result → Reply)
    (performed : workspace.perform action =
      ((workspace.onForest handle change).1, (workspace.onForest handle change).2.map reply))
    (noArena : ∀ item made, reply item ≠ .arena made) : workspace.MakesAtMostOne action := by
  rw [MakesAtMostOne, performed]
  refine .inl ⟨workspace.on_forest_arenas_size handle change, ?_⟩
  intro made replied
  obtain ⟨item, _, same⟩ := map_ok_iff.1 replied
  exact noArena item made same

theorem makes_at_most_one (workspace : Workspace) (action : Action) :
    workspace.MakesAtMostOne action := by
  cases action with
  | newInterner => exact .inl ⟨rfl, fun _ made => by cases made⟩
  | shareInterner arena =>
      simp only [MakesAtMostOne, perform]
      split <;> exact .inl ⟨rfl, fun _ made => by cases made⟩
  | copyHandle interner =>
      simp only [MakesAtMostOne, perform]
      split <;> exact .inl ⟨rfl, fun _ made => by cases made⟩
  | readInterner document =>
      simp only [MakesAtMostOne, perform]
      split <;> exact .inl ⟨rfl, fun _ made => by cases made⟩
  | intern interner text =>
      refine .inl ⟨congrArg Array.size (workspace.on_interner_arenas interner _), ?_⟩
      intro made replied
      obtain ⟨name, _, same⟩ := map_ok_iff.1 replied
      cases same
  | newArena interner? =>
      cases interner? with
      | none => exact .inr ⟨_, _, .new none, rfl, rfl⟩
      | some interner =>
          simp only [MakesAtMostOne, perform]
          split
          · exact .inl ⟨rfl, fun _ made => by cases made⟩
          · exact .inr ⟨_, _, .new (some interner), rfl, rfl⟩
  | copyArena arena =>
      simp only [MakesAtMostOne, perform]
      split
      case h_1 => exact .inl ⟨rfl, fun _ made => by cases made⟩
      case h_2 found => exact .inr ⟨_, _, .copy found, rfl, rfl⟩
  | readArena document =>
      simp only [MakesAtMostOne, perform]
      split
      case h_1 => exact .inl ⟨rfl, fun _ made => by cases made⟩
      case h_2 read => exact .inr ⟨_, _, .read read, rfl, rfl⟩
  | push arena node =>
      exact makes_none_of_forest (Build.node node.kind node.type) .node rfl (by simp)
  | pushChildren arena children =>
      exact makes_none_of_forest (Build.children children) .children rfl (by simp)
  | pushMembers arena members =>
      exact makes_none_of_forest (Build.members members) .members rfl (by simp)
  | build arena construction => exact makes_none_of_forest construction.build .node rfl (by simp)

theorem made_held {action : Action} (made : (workspace.perform action).2 = .ok (.arena handle)) :
    ∃ base home, workspace.Begins action base ∧
      (workspace.perform action).1.arenas[handle.number]? = some (base, home) := by
  rcases workspace.makes_at_most_one action with ⟨_, none⟩ | ⟨base, home, begins, pushed, replied⟩
  · exact absurd made (none handle)
  · rw [replied] at made
    cases made
    refine ⟨base, home, begins, ?_⟩
    rw [pushed, Array.getElem?_push_size]

theorem perform_all_append (actions : List Action) (action : Action) :
    workspace.performAll (actions ++ [action]) =
      ((workspace.performAll actions).perform action).1 := by
  simp [performAll]

theorem StemsFrom.held {actions : List Action} {base : Arena}
    (stems : StemsFrom actions handle base) :
    ∃ arena home, (performAll {} actions).arenas[handle.number]? = some (arena, home) ∧
      base.Extends arena := by
  induction stems with
  | new made =>
      obtain ⟨_, home, begins, held⟩ := made_held made
      cases begins
      rw [perform_all_append]
      exact ⟨_, home, held, .refl _⟩
  | read read made =>
      obtain ⟨_, home, begins, held⟩ := made_held made
      cases begins with
      | read readToo =>
          rw [read] at readToo
          cases readToo
          rw [perform_all_append]
          exact ⟨_, home, held, .refl _⟩
  | copy _ made induction =>
      obtain ⟨_, home, begins, held⟩ := made_held made
      obtain ⟨arena, _, heldOriginal, extended⟩ := induction
      cases begins with
      | copy original =>
          rw [heldOriginal] at original
          cases original
          rw [perform_all_append]
          exact ⟨_, home, held, extended⟩
  | @later actions handle base _ action induction =>
      obtain ⟨arena, _, held, extended⟩ := induction
      obtain ⟨later, heldLater, grown, _⟩ :=
        (tracks_extends.perform (performAll {} actions) action).arenas _ _ held
      rw [perform_all_append]
      exact ⟨later.1, later.2, heldLater, extended.trans grown⟩

/-- Every arena stems from one. The induction is on the run from its end: an arena was there before
the last action, or this action has made it. -/
theorem exists_stem {actions : List Action} {held : Arena × InternerId}
    (found : (performAll {} actions).arenas[handle.number]? = some held) :
    ∃ base, StemsFrom actions handle base := by
  induction actions using List.reverseRecOn generalizing handle held with
  | nil => simp [performAll] at found
  | append_singleton actions action induction =>
      rw [perform_all_append] at found
      by_cases earlier : handle.number < (performAll {} actions).arenas.size
      · obtain ⟨base, stems⟩ := induction (Array.getElem?_eq_getElem earlier)
        exact ⟨base, stems.later action⟩
      · have inside := (Array.getElem?_eq_some_iff.1 found).1
        rcases (performAll {} actions).makes_at_most_one action with
          ⟨size, _⟩ | ⟨base, home, begins, pushed, made⟩
        · rw [size] at inside
          exact absurd inside earlier
        · have last : handle = ⟨(performAll {} actions).arenas.size⟩ := by
            rw [pushed, Array.size_push] at inside
            exact congrArg ArenaHandle.mk (by omega)
          rw [← last] at made
          cases begins with
          | new interner? => exact ⟨_, .new made⟩
          | copy original =>
              obtain ⟨base, stems⟩ := induction original
              exact ⟨base, .copy stems made⟩
          | read read => exact ⟨_, .read read made⟩

theorem StemsFrom.parallel_iff {actions : List Action} {base : Arena}
    (stems : StemsFrom actions handle base)
    (held : (performAll {} actions).forest? handle = some forest) :
    forest.arena.Parallel ↔ base.Parallel := by
  obtain ⟨arena, home, found, extended⟩ := stems.held
  rw [(forest_held_iff.1 held).1] at found
  cases found
  exact extended.aligned.symm

theorem pushed_ok (held : workspace.forest? handle = some forest)
    (answered : (workspace.perform (.push handle node)).2 = .ok (.node id)) :
    id.index = forest.arena.kinds.size ∧
      ∃ grown, (workspace.perform (.push handle node)).1.forest? handle = some grown ∧
        forest.Extends grown ∧ grown.arena.kinds = forest.arena.kinds.push node.kind ∧
        grown.arena.types = forest.arena.types.push node.type := by
  have additive := Build.Additive.node node.kind node.type
  obtain ⟨number, pushed, same⟩ := map_ok_iff.1 answered
  cases same
  obtain ⟨grown, ran, heldAfter⟩ := on_forest_ok held additive pushed
  have extended := additive.extends forest
  rw [ran] at extended
  obtain ⟨room, number, rfl⟩ := Build.node_ok ran
  have last : id.index = forest.arena.kinds.size := by
    rw [number]
    exact UInt32.toNat_ofNat_of_lt' room
  exact ⟨last, _, heldAfter, extended, rfl, rfl⟩

theorem push_answers (held : workspace.forest? handle = some forest) (node : Node)
    (room : forest.arena.size < UInt32.size) :
    ∃ id, (workspace.perform (.push handle node)).2 = .ok (.node id) := by
  obtain ⟨id, grown, ran⟩ : ∃ id grown,
      (Build.node node.kind node.type).run forest = (.ok id, grown) :=
    Build.node_answers node.kind node.type room
  refine ⟨id, ?_⟩
  simp only [perform, on_forest_eq held, ran]
  rfl

/-- Every arena stems from an empty one or from what a document was read as. Its tables are parallel
exactly if they were so there, and always if it stems from an empty one. A node that is pushed has
its kind ever after, and where the tables are parallel also its type. Where they are not, they never
will be, and there is a type that no node can be pushed with and keep. -/
theorem pushed_nodes_kept {actions : List Action}
    (held : (performAll {} actions).forest? handle = some forest) :
    (∃ base, StemsFrom actions handle base) ∧
      (∀ base, StemsFrom actions handle base → (forest.arena.Parallel ↔ base.Parallel)) ∧
      (StemsFrom actions handle {} → forest.arena.Parallel) ∧
      (∀ node id, ((performAll {} actions).perform (.push handle node)).2 = .ok (.node id) →
        ∀ later, ∃ grown,
          (((performAll {} actions).perform (.push handle node)).1.performAll later).forest?
            handle = some grown ∧
          (grown.arena.Parallel ↔ forest.arena.Parallel) ∧
          grown.arena.kind id = .ok node.kind ∧
          (forest.arena.Parallel →
            grown.arena.type id = .ok node.type ∧ grown.arena.node id = .ok node)) ∧
      (¬forest.arena.Parallel → forest.arena.size < UInt32.size →
        ∃ type, ∀ kind, ∃ id grown,
          ((performAll {} actions).perform (.push handle ⟨kind, type⟩)).2 = .ok (.node id) ∧
          ((performAll {} actions).perform (.push handle ⟨kind, type⟩)).1.forest? handle =
            some grown ∧
          grown.arena.type id ≠ .ok type) := by
  have found := (forest_held_iff.1 held).1
  refine ⟨exists_stem found, fun base stems => stems.parallel_iff held,
    fun stems => (stems.parallel_iff held).2 Arena.empty_parallel, ?kept, ?apart⟩
  case kept =>
    intro node id answered later
    obtain ⟨last, pushed, heldPushed, extended, kinds, types⟩ := pushed_ok held answered
    obtain ⟨grown, heldGrown, grows⟩ := (tracks_extends.perform_all _ later).forest heldPushed
    have kindPushed : pushed.arena.kinds[id.index]? = some node.kind := by
      rw [kinds, last, Array.getElem?_push_size]
    obtain ⟨_, kindFound, rfl⟩ := KeptBy.of_prefix grows.arena.kinds _ _ kindPushed
    have kind := Arena.kind_ok_iff.2 kindFound
    refine ⟨grown, heldGrown, (extended.arena.aligned.trans grows.arena.aligned).symm, kind, ?_⟩
    intro parallel
    have typePushed : pushed.arena.types[id.index]? = some node.type := by
      rw [types]
      exact (Arena.parallel_iff_type_kept last).1 parallel node.type
    obtain ⟨_, typeFound, rfl⟩ := KeptBy.of_prefix grows.arena.types _ _ typePushed
    have type := Arena.type_ok_iff.2 typeFound
    exact ⟨type, by rw [Arena.node, kind, type]; rfl⟩
  case apart =>
    intro apart room
    have last : (NodeId.mk (.ofNat forest.arena.size)).index = forest.arena.kinds.size :=
      UInt32.toNat_ofNat_of_lt' room
    rw [Arena.parallel_iff_type_kept last, not_forall] at apart
    obtain ⟨type, lost⟩ := apart
    refine ⟨type, fun kind => ?_⟩
    obtain ⟨id, answered⟩ := push_answers held ⟨kind, type⟩ room
    obtain ⟨index, grown, heldGrown, _, _, types⟩ := pushed_ok held answered
    refine ⟨id, grown, answered, heldGrown, ?_⟩
    rw [Ne, Arena.type_ok_iff, types, index, ← last]
    exact lost

theorem parallel_and_apart_held :
    (∃ forest ∈ twoArenas.forest? ⟨0⟩, forest.arena.types.size = forest.arena.kinds.size) ∧
      (twoArenas.perform (.push ⟨0⟩ ⟨.parameter ⟨9⟩, .int⟩)).2 = .ok (.node ⟨3⟩) ∧
      ∃ forest ∈ untypedArena.forest? ⟨0⟩, forest.arena.types.size = 0 ∧
        forest.arena.kinds.size = 1 := by
  decide +kernel

/-- In a new arena, and in one that was read without types. -/
theorem pushed_nodes_kept_two_arenas :
    (∃ forest, twoArenas.forest? ⟨0⟩ = some forest ∧ forest.arena.Parallel ∧
      (twoArenas.perform (.push ⟨0⟩ ⟨.parameter ⟨9⟩, .int⟩)).2 = .ok (.node ⟨3⟩) ∧
      ∀ later, ∃ grown,
        ((twoArenas.perform (.push ⟨0⟩ ⟨.parameter ⟨9⟩, .int⟩)).1.performAll later).forest? ⟨0⟩ =
          some grown ∧
        grown.arena.Parallel ∧ grown.arena.node ⟨3⟩ = .ok ⟨.parameter ⟨9⟩, .int⟩) ∧
    ∃ forest, untypedArena.forest? ⟨0⟩ = some forest ∧ ¬forest.arena.Parallel ∧
      ∃ type, ∀ kind, ∃ id grown,
        (untypedArena.perform (.push ⟨0⟩ ⟨kind, type⟩)).2 = .ok (.node id) ∧
        (untypedArena.perform (.push ⟨0⟩ ⟨kind, type⟩)).1.forest? ⟨0⟩ = some grown ∧
        grown.arena.type id ≠ .ok type := by
  obtain ⟨⟨forest, held, parallel⟩, answered, untyped, heldUntyped, noTypes, oneKind⟩ :=
    parallel_and_apart_held
  constructor
  · obtain ⟨_, _, _, kept, _⟩ := pushed_nodes_kept held
    refine ⟨forest, held, parallel, answered, fun later => ?_⟩
    obtain ⟨grown, heldGrown, same, _, read⟩ := kept _ _ answered later
    exact ⟨grown, heldGrown, same.2 parallel, (read parallel).2⟩
  · obtain ⟨_, _, _, _, lost⟩ := pushed_nodes_kept heldUntyped
    have apart : ¬untyped.arena.Parallel := by
      rw [Arena.Parallel, noTypes, oneKind]
      decide
    have room : untyped.arena.size < UInt32.size := by
      rw [Arena.size, oneKind]
      decide
    exact ⟨untyped, heldUntyped, apart, lost apart room⟩

/-- A document can give an arena whose tables are not parallel. -/
theorem read_apart :
    ¬∀ (actions : List Action) (handle : ArenaHandle) (forest : Forest),
      (performAll {} actions).forest? handle = some forest →
      forest.arena.Parallel ∧
        ∀ node id, ((performAll {} actions).perform (.push handle node)).2 = .ok (.node id) →
          ∀ later, ∃ grown,
            (((performAll {} actions).perform (.push handle node)).1.performAll later).forest?
              handle = some grown ∧
            grown.arena.kind id = .ok node.kind ∧ grown.arena.type id = .ok node.type ∧
            grown.arena.node id = .ok node := by
  intro promised
  obtain ⟨_, _, forest, held, noTypes, oneKind⟩ := parallel_and_apart_held
  have parallel := (promised _ _ forest held).1
  rw [Arena.Parallel, noTypes, oneKind] at parallel
  cases parallel

end Workspace

end ExprTree
