import ExprTree.Proofs.Interning
import ExprTree.Proofs.Profile
import ExprTree.Workspace

/-!
What holds in every workspace that actions lead to. All that an action does comes down to a few
kinds of change; what each of these respects, an action respects, and so does a run. Every interner
is one that interning leads to, so that two forests of a workspace have compatible names: if they
share their names, they share one consistent interner.
-/

namespace ExprTree

set_option autoImplicit false

namespace Build

variable {Result Next : Type} {relation : Forest → Forest → Prop}

def Respects (relation : Forest → Forest → Prop) (build : Build Result) : Prop :=
  ∀ forest, relation forest (build.run forest).2

theorem run_bind (first : Build Result) (next : Result → Build Next) (forest : Forest) :
    (first >>= next).run forest =
      match first.run forest with
      | (.ok item, grown) => (next item).run grown
      | (.error error, grown) => (.error error, grown) := by
  rw [ExceptT.run_bind]
  simp only [bind, StateT.bind]
  cases first.run forest with
  | mk result grown => cases result <;> rfl

theorem respects_bind {first : Build Result} {next : Result → Build Next}
    (chained : ∀ {before between after}, relation before between → relation between after →
      relation before after)
    (firstRespects : first.Respects relation)
    (nextRespects : ∀ item, (next item).Respects relation) :
    Build.Respects relation (first >>= next) := by
  intro forest
  have before := firstRespects forest
  rw [run_bind]
  cases ran : first.run forest with
  | mk result grown =>
      rw [ran] at before
      cases result with
      | error error => exact before
      | ok item => exact chained before (nextRespects item grown)

inductive Additive : {Result : Type} → Build Result → Prop where
  | intern (text : String) : Additive (Build.intern text)
  | node (kind : ExprKind) (type : TypeId) : Additive (Build.node kind type)
  | children (items : List NodeId) : Additive (Build.children items)
  | members (items : List MemberId) : Additive (Build.members items)
  | bind {Result Next : Type} {first : Build Result} {next : Result → Build Next}
      (firstAdds : Additive first) (nextAdds : ∀ item, Additive (next item)) :
      Additive (first >>= next)

theorem construction_additive (construction : Construction) : construction.build.Additive := by
  cases construction with
  | string text => exact .bind (.intern text) fun _ => .node _ _
  | parameter name type => exact .bind (.intern name) fun _ => .node _ _
  | call target method args type => exact .bind (.children args) fun _ => .node _ _
  | invoke callee args type => exact .bind (.children args) fun _ => .node _ _
  | newArray elements type => exact .bind (.children elements) fun _ => .node _ _
  | newArrayBounds bounds type => exact .bind (.children bounds) fun _ => .node _ _
  | lambda body params type => exact .bind (.children params) fun _ => .node _ _
  | new ctor args bound type =>
      exact .bind (.children args) fun _ => .bind (.members bound) fun _ => .node _ _
  | _ => exact .node _ _

theorem Additive.respects {build : Build Result} (additive : build.Additive)
    (chained : ∀ {before between after}, relation before between → relation between after →
      relation before after)
    (onIntern : ∀ text, (Build.intern text).Respects relation)
    (onNode : ∀ kind type, (Build.node kind type).Respects relation)
    (onChildren : ∀ items, (Build.children items).Respects relation)
    (onMembers : ∀ items, (Build.members items).Respects relation) : build.Respects relation := by
  induction additive with
  | intern text => exact onIntern text
  | node kind type => exact onNode kind type
  | children items => exact onChildren items
  | members items => exact onMembers items
  | bind _ _ first next => exact respects_bind chained first next

def KeepsNames (build : Build Result) : Prop :=
  build.Respects fun before after => before.names.Attainable → after.names.Attainable

theorem intern_keeps_names (text : String) : (intern text).KeepsNames := by
  intro forest attainable
  exact attainable.intern text

theorem on_arena_keeps_names (change : Arena → Arena × Except Arena.PushError Result) :
    (onArena change).KeepsNames := by
  intro forest attainable
  exact attainable

theorem Additive.keeps_names {build : Build Result} (additive : build.Additive) :
    build.KeepsNames :=
  additive.respects (fun first second attainable => second (first attainable))
    intern_keeps_names (fun _ _ => on_arena_keeps_names _) (fun _ => on_arena_keeps_names _)
    (fun _ => on_arena_keeps_names _)

end Build

namespace Workspace

/-- Every kind of change relates the workspace before it to the one after it. -/
structure Tracks (relation : Workspace → Workspace → Prop) : Prop where
  unchanged : ∀ workspace, relation workspace workspace
  chained : ∀ {before between after}, relation before between → relation between after →
    relation before after
  addInterner : ∀ workspace interner, interner.Attainable →
    relation workspace (workspace.addInterner interner).1
  addHandle : ∀ workspace id, relation workspace (workspace.addHandle id).1
  addArena : ∀ workspace arena home, relation workspace (workspace.addArena arena home).1
  interned : ∀ workspace handle text,
    relation workspace (workspace.onInterner handle (·.intern text)).1
  built : ∀ {Result : Type} workspace handle {change : Build Result}, change.Additive →
    relation workspace (workspace.onForest handle change).1

/-- One action makes changes of these kinds, and no others. -/
theorem Tracks.perform {relation : Workspace → Workspace → Prop} (tracks : Tracks relation)
    (workspace : Workspace) (action : Action) :
    relation workspace (workspace.perform action).1 := by
  cases action with
  | newInterner =>
      exact tracks.chained (tracks.addInterner _ _ .fresh) (tracks.addHandle _ _)
  | shareInterner arena =>
      simp only [Workspace.perform]
      split
      case h_1 => exact tracks.unchanged _
      case h_2 => exact tracks.addHandle _ _
  | copyHandle interner =>
      simp only [Workspace.perform]
      split
      case h_1 => exact tracks.unchanged _
      case h_2 => exact tracks.addHandle _ _
  | readInterner document =>
      simp only [Workspace.perform]
      split
      case h_1 => exact tracks.unchanged _
      case h_2 interner read =>
        have attainable := Interner.decode_attainable read
        exact tracks.chained (tracks.addInterner _ _ attainable) (tracks.addHandle _ _)
  | intern interner text => exact tracks.interned _ _ _
  | newArena interner =>
      cases interner with
      | none =>
          exact tracks.chained (tracks.addInterner _ _ .fresh) (tracks.addArena _ _ _)
      | some interner =>
          simp only [Workspace.perform]
          split
          case h_1 => exact tracks.unchanged _
          case h_2 => exact tracks.addArena _ _ _
  | copyArena arena =>
      simp only [Workspace.perform]
      split
      case h_1 => exact tracks.unchanged _
      case h_2 => exact tracks.addArena _ _ _
  | readArena document =>
      simp only [Workspace.perform]
      split
      case h_1 => exact tracks.unchanged _
      case h_2 forest read =>
        have attainable := Forest.of_document_attainable read
        exact tracks.chained (tracks.addInterner _ _ attainable) (tracks.addArena _ _ _)
  | push arena node => exact tracks.built _ _ (.node _ _)
  | pushChildren arena children => exact tracks.built _ _ (.children _)
  | pushMembers arena members => exact tracks.built _ _ (.members _)
  | build arena construction => exact tracks.built _ _ (Build.construction_additive construction)

theorem Tracks.perform_all {relation : Workspace → Workspace → Prop} (tracks : Tracks relation)
    (workspace : Workspace) (actions : List Action) :
    relation workspace (workspace.performAll actions) := by
  induction actions generalizing workspace with
  | nil => exact tracks.unchanged _
  | cons action actions induction =>
      exact tracks.chained (tracks.perform workspace action) (induction _)

def NamesAttainable (workspace : Workspace) : Prop :=
  ∀ interner ∈ workspace.interners, interner.Attainable

/-- The workspaces that actions can lead to. -/
def Reachable (workspace : Workspace) : Prop :=
  ∃ actions, Workspace.performAll {} actions = workspace

theorem Reachable.perform_all {workspace : Workspace} (reachable : workspace.Reachable)
    (actions : List Action) : (workspace.performAll actions).Reachable := by
  obtain ⟨earlier, rfl⟩ := reachable
  exact ⟨earlier ++ actions, List.foldl_append⟩

theorem attainable_push {interners : Array Interner} {interner : Interner}
    (attainable : ∀ other ∈ interners, other.Attainable) (own : interner.Attainable) :
    ∀ other ∈ interners.push interner, other.Attainable := by
  intro other member
  rcases Array.mem_push.1 member with earlier | rfl
  · exact attainable other earlier
  · exact own

theorem attainable_set {interners : Array Interner} {interner : Interner} {number : Nat}
    (attainable : ∀ other ∈ interners, other.Attainable) (own : interner.Attainable) :
    ∀ other ∈ interners.setIfInBounds number interner, other.Attainable := by
  intro other member
  rcases Array.mem_or_eq_of_mem_setIfInBounds member with earlier | rfl
  · exact attainable other earlier
  · exact own

theorem on_forest_attainable {Result : Type} {workspace : Workspace} {change : Build Result}
    (attainable : workspace.NamesAttainable) (keeps : change.KeepsNames) (handle : ArenaHandle) :
    (workspace.onForest handle change).1.NamesAttainable := by
  obtain ⟨interners, handles, arenas⟩ := workspace
  simp only [onForest]
  split
  case h_1 => exact attainable
  case h_2 arena home found =>
    split
    case h_1 => exact attainable
    case h_2 names held =>
      have own : names.Attainable := attainable names (Array.mem_of_getElem? held)
      exact attainable_set (attainable_set attainable .fresh) (keeps ⟨arena, names, home⟩ own)

theorem on_interner_attainable {Result : Type} {workspace : Workspace}
    {change : Interner → Interner × Except InternError Result}
    (attainable : workspace.NamesAttainable)
    (keeps : ∀ interner, interner.Attainable → (change interner).1.Attainable)
    (handle : InternerHandle) : (workspace.onInterner handle change).1.NamesAttainable := by
  obtain ⟨interners, handles, arenas⟩ := workspace
  simp only [onInterner]
  split
  case h_1 => exact attainable
  case h_2 id found =>
    split
    case h_1 => exact attainable
    case h_2 names held =>
      have own : names.Attainable := attainable names (Array.mem_of_getElem? held)
      exact attainable_set (attainable_set attainable .fresh) (keeps names own)

theorem tracks_attainable :
    Tracks fun before after => before.NamesAttainable → after.NamesAttainable where
  unchanged _ attainable := attainable
  chained first second attainable := second (first attainable)
  addInterner _ _ own attainable := attainable_push attainable own
  addHandle _ _ attainable := attainable
  addArena _ _ _ attainable := attainable
  interned _ handle text attainable :=
    on_interner_attainable attainable (fun _ own => own.intern text) handle
  built _ handle _ additive attainable :=
    on_forest_attainable attainable additive.keeps_names handle

theorem Reachable.attainable {workspace : Workspace} (reachable : workspace.Reachable)
    {number : Nat} {interner : Interner} (held : workspace.interners[number]? = some interner) :
    interner.Attainable := by
  obtain ⟨actions, rfl⟩ := reachable
  have attainable : (Workspace.performAll {} actions).NamesAttainable := by
    apply tracks_attainable.perform_all
    intro other member
    simp at member
  exact attainable interner (Array.mem_of_getElem? held)

theorem forest_held_iff {workspace : Workspace} {handle : ArenaHandle} {forest : Forest} :
    workspace.forest? handle = some forest ↔
      workspace.arenas[handle.number]? = some (forest.arena, forest.home) ∧
        workspace.interners[forest.home.number]? = some forest.names := by
  unfold forest?
  rw [Option.bind_eq_bind, Option.bind_eq_some_iff]
  constructor
  · intro ⟨⟨arena, home⟩, found, named⟩
    obtain ⟨names, listed, same⟩ := Option.bind_eq_some_iff.1 named
    cases same
    exact ⟨found, listed⟩
  · intro ⟨found, listed⟩
    exact ⟨_, found, Option.bind_eq_some_iff.2 ⟨_, listed, rfl⟩⟩

theorem names_of_forest {workspace : Workspace} {handle : ArenaHandle} {forest : Forest}
    (held : workspace.forest? handle = some forest) :
    workspace.interners[forest.home.number]? = some forest.names :=
  (forest_held_iff.1 held).2

theorem Reachable.names_attainable {workspace : Workspace} (reachable : workspace.Reachable)
    {handle : ArenaHandle} {forest : Forest} (held : workspace.forest? handle = some forest) :
    forest.names.Attainable :=
  reachable.attainable (names_of_forest held)

theorem on_forest_eq {Result : Type} {workspace : Workspace} {handle : ArenaHandle}
    {forest : Forest} (held : workspace.forest? handle = some forest) (change : Build Result) :
    workspace.onForest handle change =
      ({ workspace with
          interners :=
            workspace.interners.setIfInBounds forest.home.number (change.run forest).2.names
          arenas := workspace.arenas.setIfInBounds handle.number
            ((change.run forest).2.arena, forest.home) },
        (change.run forest).1.mapError .refused) := by
  obtain ⟨found, named⟩ := forest_held_iff.1 held
  obtain ⟨interners, handles, arenas⟩ := workspace
  simp only at found named
  simp only [onForest, found, named, Array.setIfInBounds_setIfInBounds]
  rfl

theorem tree_held_iff {workspace : Workspace} {handle : ArenaHandle} {root : NodeId} {tree : Tree} :
    workspace.tree? handle root = some tree ↔
      workspace.forest? handle = some tree.forest ∧ tree.root = root := by
  unfold tree?
  rw [Option.bind_eq_bind, Option.bind_eq_some_iff]
  constructor
  · intro ⟨forest, found, same⟩
    cases same
    exact ⟨found, rfl⟩
  · intro ⟨found, same⟩
    refine ⟨tree.forest, found, ?_⟩
    rw [← same]
    rfl

theorem names_of_tree {workspace : Workspace} {handle : ArenaHandle} {root : NodeId} {tree : Tree}
    (held : workspace.tree? handle root = some tree) :
    workspace.interners[tree.forest.home.number]? = some tree.forest.names :=
  names_of_forest (tree_held_iff.1 held).1

theorem Reachable.compatible {workspace : Workspace} (reachable : workspace.Reachable)
    {leftHandle rightHandle : ArenaHandle} {leftRoot rightRoot : NodeId} {left right : Tree}
    (leftHeld : workspace.tree? leftHandle leftRoot = some left)
    (rightHeld : workspace.tree? rightHandle rightRoot = some right) :
    left.forest.Compatible right.forest := by
  intro shared leftName rightName leftText rightText leftFound rightFound
  have leftNames := names_of_tree leftHeld
  have rightNames := names_of_tree rightHeld
  have home : left.forest.home = right.forest.home := by
    simpa [Forest.sharesNames] using shared
  rw [home, rightNames, Option.some.injEq] at leftNames
  have consistent := (reachable.attainable rightNames).consistent
  rw [Forest.text_ok_iff] at leftFound rightFound
  rw [← leftNames] at leftFound
  exact consistent.same_name_iff leftFound rightFound

end Workspace

end ExprTree
