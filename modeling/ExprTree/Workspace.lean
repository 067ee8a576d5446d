import ExprTree.Arena.Document
import ExprTree.Construction

/-!
Several arenas and interners side by side. Arenas can share an interner, and an interner can be held
by several handles: what is interned through one of them is there for all. Everything that
changes a workspace is an `Action`.
-/

namespace ExprTree

set_option autoImplicit false

/-- Arenas in the order in which they were made. -/
structure ArenaHandle where
  number : Nat
deriving DecidableEq

/-- Handles of interners in the order in which they were given out, several to one interner. -/
structure InternerHandle where
  number : Nat
deriving DecidableEq

structure Workspace where
  interners : Array Interner := #[]
  /-- The interner of each handle. -/
  handles : Array InternerId := #[]
  /-- Each arena with the interner that its names belong to. -/
  arenas : Array (Arena × InternerId) := #[]

inductive Action where
  | newInterner
  | shareInterner (arena : ArenaHandle)
  | copyHandle (interner : InternerHandle)
  | readInterner (document : Document)
  | intern (interner : InternerHandle) (text : String)
  /-- With an interner of its own if none is given. -/
  | newArena (interner : Option InternerHandle)
  /-- The copy has the same interner. -/
  | copyArena (arena : ArenaHandle)
  | readArena (document : Document)
  | push (arena : ArenaHandle) (node : Node)
  | pushChildren (arena : ArenaHandle) (children : List NodeId)
  | pushMembers (arena : ArenaHandle) (members : List MemberId)
  | build (arena : ArenaHandle) (construction : Construction)

inductive Reply where
  | interner (handle : InternerHandle)
  | arena (handle : ArenaHandle)
  | name (name : Name)
  | node (id : NodeId)
  | children (range : NodeRange)
  | members (range : MemberRange)
deriving DecidableEq

inductive ActionError where
  | unknownArena
  | unknownInterner
  | unreadable (error : DecodeError)
  | refused (error : BuildError)
deriving DecidableEq

namespace Workspace

def internerId? (workspace : Workspace) (handle : InternerHandle) : Option InternerId :=
  workspace.handles[handle.number]?

def interner? (workspace : Workspace) (handle : InternerHandle) : Option Interner := do
  workspace.interners[(← workspace.internerId? handle).number]?

def forest? (workspace : Workspace) (handle : ArenaHandle) : Option Forest := do
  let (arena, home) ← workspace.arenas[handle.number]?
  return ⟨arena, ← workspace.interners[home.number]?, home⟩

def tree? (workspace : Workspace) (handle : ArenaHandle) (root : NodeId) : Option Tree := do
  return ⟨← workspace.forest? handle, root⟩

def addInterner (workspace : Workspace) (interner : Interner) : Workspace × InternerId :=
  ({ workspace with interners := workspace.interners.push interner },
    ⟨workspace.interners.size⟩)

def addHandle (workspace : Workspace) (id : InternerId) : Workspace × InternerHandle :=
  ({ workspace with handles := workspace.handles.push id }, ⟨workspace.handles.size⟩)

def addArena (workspace : Workspace) (arena : Arena) (home : InternerId) :
    Workspace × ArenaHandle :=
  ({ workspace with arenas := workspace.arenas.push (arena, home) }, ⟨workspace.arenas.size⟩)

/-- Adds to one forest in place. Nothing else refers to its tables while they change. -/
def onForest {Result : Type} (workspace : Workspace) (handle : ArenaHandle)
    (change : Build Result) : Workspace × Except ActionError Result :=
  match workspace with
  | ⟨interners, handles, arenas⟩ =>
      match arenas[handle.number]? with
      | none => (⟨interners, handles, arenas⟩, .error .unknownArena)
      | some (arena, home) =>
          match interners[home.number]? with
          | none => (⟨interners, handles, arenas⟩, .error .unknownInterner)
          | some names =>
              let arenas := arenas.setIfInBounds handle.number (default, home)
              let interners := interners.setIfInBounds home.number default
              let (result, grown) := change.run ⟨arena, names, home⟩
              (⟨interners.setIfInBounds home.number grown.names, handles,
                  arenas.setIfInBounds handle.number (grown.arena, home)⟩,
                result.mapError .refused)

def onInterner {Result : Type} (workspace : Workspace) (handle : InternerHandle)
    (change : Interner → Interner × Except InternError Result) :
    Workspace × Except ActionError Result :=
  match workspace with
  | ⟨interners, handles, arenas⟩ =>
      match handles[handle.number]? with
      | none => (⟨interners, handles, arenas⟩, .error .unknownInterner)
      | some id =>
          match interners[id.number]? with
          | none => (⟨interners, handles, arenas⟩, .error .unknownInterner)
          | some names =>
              let interners := interners.setIfInBounds id.number default
              let (grown, result) := change names
              (⟨interners.setIfInBounds id.number grown, handles, arenas⟩,
                result.mapError fun error => .refused (.intern error))

def handleTo (workspace : Workspace) (id : InternerId) : Workspace × Except ActionError Reply :=
  let (grown, handle) := workspace.addHandle id
  (grown, .ok (.interner handle))

def perform (workspace : Workspace) : Action → Workspace × Except ActionError Reply
  | .newInterner =>
      let (grown, id) := workspace.addInterner .fresh
      grown.handleTo id
  | .shareInterner arena =>
      match workspace.arenas[arena.number]? with
      | none => (workspace, .error .unknownArena)
      | some (_, home) => workspace.handleTo home
  | .copyHandle interner =>
      match workspace.internerId? interner with
      | none => (workspace, .error .unknownInterner)
      | some id => workspace.handleTo id
  | .readInterner document =>
      match (decode document : Except DecodeError Interner) with
      | .error error => (workspace, .error (.unreadable error))
      | .ok interner =>
          let (grown, id) := workspace.addInterner interner
          grown.handleTo id
  | .intern interner text =>
      let (grown, result) := workspace.onInterner interner (·.intern text)
      (grown, result.map .name)
  | .newArena none =>
      let (withInterner, home) := workspace.addInterner .fresh
      let (grown, handle) := withInterner.addArena {} home
      (grown, .ok (.arena handle))
  | .newArena (some interner) =>
      match workspace.internerId? interner with
      | none => (workspace, .error .unknownInterner)
      | some home =>
          let (grown, handle) := workspace.addArena {} home
          (grown, .ok (.arena handle))
  | .copyArena arena =>
      match workspace.arenas[arena.number]? with
      | none => (workspace, .error .unknownArena)
      | some (arena, home) =>
          let (grown, handle) := workspace.addArena arena home
          (grown, .ok (.arena handle))
  | .readArena document =>
      match Forest.ofDocument ⟨workspace.interners.size⟩ document with
      | .error error => (workspace, .error (.unreadable error))
      | .ok forest =>
          let (withInterner, home) := workspace.addInterner forest.names
          let (grown, handle) := withInterner.addArena forest.arena home
          (grown, .ok (.arena handle))
  | .push arena node =>
      let (grown, result) := workspace.onForest arena (Build.node node.kind node.type)
      (grown, result.map .node)
  | .pushChildren arena children =>
      let (grown, result) := workspace.onForest arena (Build.children children)
      (grown, result.map .children)
  | .pushMembers arena members =>
      let (grown, result) := workspace.onForest arena (Build.members members)
      (grown, result.map .members)
  | .build arena construction =>
      let (grown, result) := workspace.onForest arena construction.build
      (grown, result.map .node)

/-- Performs actions one after the other, whether or not they succeed. -/
def performAll (workspace : Workspace) (actions : List Action) : Workspace :=
  actions.foldl (fun workspace action => (workspace.perform action).1) workspace

end Workspace

end ExprTree
