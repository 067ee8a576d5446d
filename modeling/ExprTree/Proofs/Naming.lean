import ExprTree.Proofs.Storing

/-!
What names can be relied on for. In every workspace that actions lead to, an interner holds distinct
strings, the empty one first, each under one name; a name that a call has given stands for its
string ever after, through whichever handle or arena the interner is used, and no other string gets
it.
-/

namespace ExprTree

set_option autoImplicit false

/-- The strings are distinct and start with the empty one; index and strings are inverse to each
other; and the names that belong to the interner are those that stand for a string. -/
structure Interner.Settled (interner : Interner) : Prop where
  distinct : interner.strings.toList.Nodup
  first : interner.strings[0]? = some ""
  inverse : ∀ text name, interner.index[text]? = some name ↔ interner.lookup? name = some text
  inside : ∀ name, interner.contains name ↔ ∃ text, interner.lookup? name = some text

namespace Interner

variable {interner grown : Interner} {text : String} {name : Name}

theorem contains_iff : interner.contains name ↔ ∃ text, interner.lookup? name = some text := by
  rw [contains, decide_eq_true_iff, lookup?]
  constructor
  · intro inside
    exact ⟨_, Array.getElem?_eq_getElem inside⟩
  · rintro ⟨text, found⟩
    exact (Array.getElem?_eq_some_iff.1 found).1

namespace Attainable

theorem bounded (attainable : interner.Attainable) : interner.size ≤ capacity := by
  induction attainable with
  | fresh => decide
  | @intern interner _ text bounded =>
      rcases interner.intern_changes text with same | ⟨_, room, new⟩
      · rw [same]
        exact bounded
      · rw [new, size, Array.size_push]
        exact room

theorem first (attainable : interner.Attainable) : interner.lookup? .empty = some "" := by
  induction attainable with
  | fresh => rfl
  | @intern interner _ text first => exact (interner.intern_extends text).lookup first

theorem name_at (attainable : interner.Attainable) {position : Nat}
    (found : interner.strings[position]? = some text) :
    ∃ name, name.index = position ∧ interner.lookup? name = some text := by
  have inside := (Array.getElem?_eq_some_iff.1 found).1
  have small : position < UInt32.size := by
    have bounded := attainable.bounded
    rw [size, capacity] at bounded
    omega
  have index : Name.index ⟨.ofNat position⟩ = position := UInt32.toNat_ofNat_of_lt' small
  refine ⟨⟨.ofNat position⟩, index, ?_⟩
  rw [lookup?, index]
  exact found

theorem named_of_mem (attainable : interner.Attainable) (member : text ∈ interner.strings) :
    ∃ name, interner.lookup? name = some text := by
  obtain ⟨position, found⟩ := Array.mem_iff_getElem?.1 member
  obtain ⟨name, _, known⟩ := attainable.name_at found
  exact ⟨name, known⟩

theorem unnamed_of_not_mem (attainable : interner.Attainable) (new : text ∉ interner.strings) :
    interner.index[text]? = none := by
  cases indexed : interner.index[text]? with
  | none => rfl
  | some name =>
      have found := (attainable.consistent text name).1 indexed
      exact absurd (Array.mem_of_getElem? found) new

theorem distinct (attainable : interner.Attainable) : interner.strings.toList.Nodup := by
  induction attainable with
  | fresh => decide
  | @intern interner earlier text distinct =>
      rcases interner.intern_changes text with same | ⟨absent, _, new⟩
      · rw [same]
        exact distinct
      · -- A string that stands in the array is in the index, so this one did not stand there.
        have unnamed : text ∉ interner.strings := by
          intro member
          obtain ⟨name, found⟩ := earlier.named_of_mem member
          rw [(earlier.consistent text name).2 found] at absent
          cases absent
        rw [new, Array.toList_push, List.nodup_append]
        refine ⟨distinct, by simp, ?_⟩
        simp only [List.mem_singleton, forall_eq]
        intro other member same
        rw [same, Array.mem_toList_iff] at member
        exact unnamed member

theorem settled (attainable : interner.Attainable) : interner.Settled where
  distinct := attainable.distinct
  first := attainable.first
  inverse := attainable.consistent
  inside _ := contains_iff

theorem intern_new (attainable : interner.Attainable) (new : text ∉ interner.strings)
    (room : interner.size < capacity) :
    ∃ grown, interner.intern text = (grown, .ok ⟨.ofNat interner.size⟩) := by
  have absent := attainable.unnamed_of_not_mem new
  rcases interner.intern_cases text with ⟨name, known, _⟩ | ⟨_, _, interned⟩ | ⟨_, full, _⟩
  · rw [absent] at known
    cases known
  · exact ⟨_, interned⟩
  · exact absurd room full

theorem pushed_of_new (attainable : interner.Attainable) (new : text ∉ interner.strings)
    (interned : interner.intern text = (grown, .ok name)) :
    grown.strings = interner.strings.push text := by
  have absent := attainable.unnamed_of_not_mem new
  rcases interner.intern_cases text with ⟨other, known, _⟩ | ⟨_, _, same⟩ | ⟨_, _, same⟩
  · rw [absent] at known
    cases known
  · rw [same, Prod.mk.injEq] at interned
    rw [← interned.1]
  · rw [same] at interned
    cases interned

end Attainable

end Interner

namespace Workspace

variable {workspace after : Workspace} {id : InternerId} {interner : Interner} {text : String}
  {name : Name}

/-- A call that interns the text in the interner, gives it the name and leaves the second workspace:
through a handle, or while a node is built, which then has the name. -/
inductive Interns (workspace : Workspace) (id : InternerId) (text : String) (name : Name) :
    Workspace → Prop where
  | throughHandle {handle : InternerHandle} (leads : workspace.internerId? handle = some id)
      (answered : (workspace.perform (.intern handle text)).2 = .ok (.name name)) :
      Interns workspace id text name (workspace.perform (.intern handle text)).1
  | throughArena {handle : ArenaHandle} {construction : Construction} {forest grown : Forest}
      {node : NodeId} {kind : ExprKind} (held : workspace.forest? handle = some forest)
      (home : forest.home = id) (spelled : construction.text? = some text)
      (answered : (workspace.perform (.build handle construction)).2 = .ok (.node node))
      (heldAfter : (workspace.perform (.build handle construction)).1.forest? handle = some grown)
      (found : grown.arena.kinds[node.index]? = some kind) (named : kind.name? = some name) :
      Interns workspace id text name (workspace.perform (.build handle construction)).1

theorem intern_performed {handle : InternerHandle} (leads : workspace.internerId? handle = some id)
    (held : workspace.interners[id.number]? = some interner) (text : String) :
    workspace.perform (.intern handle text) =
      ({ workspace with
          interners := workspace.interners.setIfInBounds id.number (interner.intern text).1 },
        ((interner.intern text).2.mapError fun error => .refused (.intern error)).map .name) := by
  obtain ⟨interners, handles, arenas⟩ := workspace
  simp only [internerId?] at leads
  simp only at held
  simp only [perform, onInterner, leads, held, Array.setIfInBounds_setIfInBounds]

theorem interner_set (held : workspace.interners[id.number]? = some interner) (grown : Interner) :
    (workspace.interners.setIfInBounds id.number grown)[id.number]? = some grown := by
  have inside := (Array.getElem?_eq_some_iff.1 held).1
  rw [Array.getElem?_setIfInBounds, if_pos rfl, if_pos inside]

/-- However a call is made, it comes down to interning. -/
theorem Interns.made (interns : workspace.Interns id text name after) :
    ∃ interner grown, workspace.interners[id.number]? = some interner ∧
      interner.intern text = (grown, .ok name) ∧ after.interners[id.number]? = some grown := by
  cases interns with
  | @throughHandle handle leads answered =>
      cases held : workspace.interners[id.number]? with
      | none =>
          obtain ⟨interners, handles, arenas⟩ := workspace
          simp only [internerId?] at leads
          simp only at held
          simp [perform, onInterner, leads, held, Except.map] at answered
      | some interner =>
          rw [intern_performed leads held] at answered ⊢
          rw [map_ok_iff] at answered
          obtain ⟨other, interned, same⟩ := answered
          cases same
          rw [map_error_ok_iff] at interned
          exact ⟨interner, _, rfl, Prod.ext rfl interned, interner_set held _⟩
  | @throughArena handle construction forest grown node kind held home spelled answered heldAfter
      found named =>
      obtain ⟨other, ran, heldOther⟩ := built_ok held answered
      rw [heldOther, Option.some.injEq] at heldAfter
      subst heldAfter
      obtain ⟨given, range, members, stored⟩ := Construction.stored_of_build ran
      have last : node.index = forest.arena.kinds.size := by
        rw [stored.number]
        exact UInt32.toNat_ofNat_of_lt' stored.room
      rw [last, stored.kinds, Array.getElem?_push_size, Option.some.injEq] at found
      rw [← found, Construction.kind_named spelled, Option.some.injEq] at named
      subst named
      have grownHome := (Construction.build_extends ran).home
      have namesHeld := names_of_forest held
      have namesAfter := names_of_forest heldOther
      rw [grownHome, home] at namesAfter
      rw [home] at namesHeld
      exact ⟨forest.names, other.names, namesHeld, stored.named text spelled, namesAfter⟩

theorem intern_known_performed {handle : InternerHandle}
    (leads : workspace.internerId? handle = some id)
    (held : workspace.interners[id.number]? = some interner) (consistent : interner.Consistent)
    (found : interner.lookup? name = some text) :
    workspace.perform (.intern handle text) = (workspace, .ok (.name name)) := by
  obtain ⟨inside, same⟩ := Array.getElem?_eq_some_iff.1 held
  have unchanged : workspace.interners.setIfInBounds id.number interner = workspace.interners := by
    rw [Array.setIfInBounds_def, dif_pos inside, ← same, Array.set_getElem_self]
  rw [intern_performed leads held, Interner.intern_known consistent found, unchanged]
  rfl

theorem lookup_later (held : workspace.interners[id.number]? = some interner)
    (found : interner.lookup? name = some text) (actions : List Action) :
    ∃ later, (workspace.performAll actions).interners[id.number]? = some later ∧
      later.lookup? name = some text := by
  have grown := tracks_extends.perform_all workspace actions
  obtain ⟨later, heldLater, extended⟩ := grown.interners _ _ held
  exact ⟨later, heldLater, extended.lookup found⟩

theorem Interns.reachable (interns : workspace.Interns id text name after)
    (reachable : workspace.Reachable) : after.Reachable := by
  cases interns with
  | @throughHandle handle => exact reachable.perform_all [.intern handle text]
  | @throughArena handle construction => exact reachable.perform_all [.build handle construction]

theorem Interns.same_name_iff (reachable : workspace.Reachable)
    (interns : workspace.Interns id text name after) {actions : List Action} {other : String}
    {otherName : Name} {last : Workspace}
    (otherInterns : (after.performAll actions).Interns id other otherName last) :
    name = otherName ↔ text = other := by
  obtain ⟨interner, grown, held, interned, heldAfter⟩ := interns.made
  obtain ⟨between, final, heldBetween, internedOther, heldFinal⟩ := otherInterns.made
  have reachableAfter := interns.reachable reachable
  have consistent := (reachable.attainable held).consistent
  have consistentBetween := ((reachableAfter.perform_all actions).attainable heldBetween).consistent
  have reachableLast := otherInterns.reachable (reachableAfter.perform_all actions)
  have consistentFinal := (reachableLast.attainable heldFinal).consistent
  -- Both names are looked up where both are known: after the second call.
  have found : final.lookup? name = some text := by
    obtain ⟨later, heldLater, kept⟩ :=
      lookup_later heldAfter (Interner.lookup_interned consistent interned) actions
    rw [heldBetween, Option.some.injEq] at heldLater
    subst heldLater
    have grows := between.intern_extends other
    rw [internedOther] at grows
    exact grows.lookup kept
  exact consistentFinal.same_name_iff found
    (Interner.lookup_interned consistentBetween internedOther)

/-- An interner of a workspace that actions lead to is settled. Interning what it has changes
nothing at all, and interning something new adds one string behind the others. The name that a call
gives stands for its string ever after, and no call gives it for another string. -/
theorem interning_settled (reachable : workspace.Reachable)
    (held : workspace.interners[id.number]? = some interner) :
    interner.Settled ∧
      (∀ handle text name, workspace.internerId? handle = some id →
        interner.lookup? name = some text →
        workspace.perform (.intern handle text) = (workspace, .ok (.name name))) ∧
      (∀ handle text, workspace.internerId? handle = some id → text ∉ interner.strings →
        interner.size < Interner.capacity →
        (workspace.perform (.intern handle text)).2 = .ok (.name ⟨.ofNat interner.size⟩)) ∧
      ∀ text name after, workspace.Interns id text name after →
        ∃ grown, after.interners[id.number]? = some grown ∧
          (text ∈ interner.strings → grown = interner) ∧
          (text ∉ interner.strings → grown.strings = interner.strings.push text) ∧
          ∀ actions, ∃ later, (after.performAll actions).interners[id.number]? = some later ∧
            later.lookup? name = some text ∧
            ∀ other otherName last, (after.performAll actions).Interns id other otherName last →
              (name = otherName ↔ text = other) := by
  have attainable := reachable.attainable held
  refine ⟨attainable.settled, ?known, ?new, ?calls⟩
  case known =>
    intro handle text name leads found
    exact intern_known_performed leads held attainable.consistent found
  case new =>
    intro handle text leads new room
    obtain ⟨grown, interned⟩ := attainable.intern_new new room
    rw [intern_performed leads held, interned]
    rfl
  case calls =>
    intro text name after interns
    obtain ⟨before, grown, heldBefore, interned, heldAfter⟩ := interns.made
    rw [held, Option.some.injEq] at heldBefore
    subst heldBefore
    refine ⟨grown, heldAfter, ?_, ?_, ?_⟩
    · intro member
      obtain ⟨own, found⟩ := attainable.named_of_mem member
      rw [Interner.intern_known attainable.consistent found, Prod.mk.injEq] at interned
      exact interned.1.symm
    · intro new
      exact attainable.pushed_of_new new interned
    · intro actions
      have found := Interner.lookup_interned attainable.consistent interned
      obtain ⟨later, heldLater, kept⟩ := lookup_later heldAfter found actions
      refine ⟨later, heldLater, kept, ?_⟩
      intro other otherName last otherInterns
      exact interns.same_name_iff reachable otherInterns

/-- One interner, used through two handles and by two arenas. -/
def sharedNames : Workspace :=
  performAll {}
    [.newInterner, .intern ⟨0⟩ "x", .newArena (some ⟨0⟩), .copyArena ⟨0⟩,
     .build ⟨1⟩ (.string "y"), .shareInterner ⟨1⟩]

theorem shared_names_reachable : sharedNames.Reachable := ⟨_, rfl⟩

theorem shared_names_held :
    ∃ interner ∈ sharedNames.interners[(InternerId.mk 0).number]?,
      sharedNames.internerId? ⟨0⟩ = some ⟨0⟩ ∧ sharedNames.internerId? ⟨1⟩ = some ⟨0⟩ ∧
      interner.lookup? ⟨1⟩ = some "x" ∧ "z" ∉ interner.strings ∧ interner.size = 3 := by
  decide +kernel

theorem shared_names_interns :
    sharedNames.Interns ⟨0⟩ "z" ⟨3⟩ (sharedNames.perform (.build ⟨0⟩ (.parameter "z" .int))).1 := by
  obtain ⟨forest, held, home, answered, grown, heldAfter, kind, found, named⟩ :
      ∃ forest ∈ sharedNames.forest? ⟨0⟩, forest.home = ⟨0⟩ ∧
        (sharedNames.perform (.build ⟨0⟩ (.parameter "z" .int))).2 = .ok (.node ⟨0⟩) ∧
        ∃ grown ∈ (sharedNames.perform (.build ⟨0⟩ (.parameter "z" .int))).1.forest? ⟨0⟩,
          ∃ kind ∈ grown.arena.kinds[0]?, kind.name? = some ⟨3⟩ := by
    decide +kernel
  exact .throughArena held home rfl answered heldAfter found named

theorem interning_settled_shared_names :
    ∃ interner grown, sharedNames.Reachable ∧ sharedNames.interners[0]? = some interner ∧
      interner.Settled ∧
      sharedNames.perform (.intern ⟨1⟩ "x") = (sharedNames, .ok (.name ⟨1⟩)) ∧
      (sharedNames.perform (.intern ⟨0⟩ "z")).2 = .ok (.name ⟨3⟩) ∧
      (sharedNames.perform (.build ⟨0⟩ (.parameter "z" .int))).1.interners[0]? = some grown ∧
      grown.strings = interner.strings.push "z" ∧
      ∀ actions, ∃ later,
        ((sharedNames.perform (.build ⟨0⟩ (.parameter "z" .int))).1.performAll
          actions).interners[0]? = some later ∧
        later.lookup? ⟨3⟩ = some "z" ∧
        ∀ other otherName last,
          ((sharedNames.perform (.build ⟨0⟩ (.parameter "z" .int))).1.performAll actions).Interns
            ⟨0⟩ other otherName last → (⟨3⟩ = otherName ↔ "z" = other) := by
  obtain ⟨interner, held, leads, leadsToo, found, new, size⟩ := shared_names_held
  obtain ⟨settled, known, fresh, calls⟩ := interning_settled shared_names_reachable held
  obtain ⟨grown, heldAfter, _, pushed, later⟩ := calls "z" ⟨3⟩ _ shared_names_interns
  have room : interner.size < Interner.capacity := by
    rw [size]
    decide
  have named := fresh ⟨0⟩ "z" leads new room
  rw [size] at named
  exact ⟨interner, grown, shared_names_reachable, held, settled, known ⟨1⟩ "x" ⟨1⟩ leadsToo found,
    named, heldAfter, pushed new, later⟩

end Workspace

end ExprTree
