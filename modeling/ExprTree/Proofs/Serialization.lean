import ExprTree.Proofs.Equality
import ExprTree.Proofs.InternerDocuments
import ExprTree.Proofs.Stability

/-!
A forest that is written and read again is the same forest, with an interner of its own. The
interner is rebuilt by interning its strings, which cannot go wrong, since they are distinct, start
with the empty one, and are few enough. So the copy validates exactly as the original does, and a
well-formed tree of the original is the same tree in the copy.
-/

namespace ExprTree

set_option autoImplicit false

namespace Interner

variable {interner copy : Interner}

theorem of_strings_self (attainable : interner.Attainable) :
    ∃ copy, ofStrings interner.strings.toList = .ok copy ∧ copy.strings = interner.strings := by
  have first := attainable.first
  rw [lookup?, ← Array.getElem?_toList] at first
  have filled : interner.strings.toList ≠ [] := List.ne_nil_of_mem (List.mem_of_getElem? first)
  obtain ⟨copy, read⟩ := of_strings_ok_iff.2 ⟨.inr ⟨first, attainable.distinct⟩, attainable.bounded⟩
  have strings := (of_strings_ok read).strings
  rw [content_of_filled filled] at strings
  exact ⟨copy, read, Array.toList_inj.1 strings⟩

theorem decode_encode_self (attainable : interner.Attainable) :
    ∃ copy : Interner, decode (encode interner) = .ok copy ∧ copy.strings = interner.strings := by
  obtain ⟨copy, read, strings⟩ := of_strings_self attainable
  refine ⟨copy, bind_ok_iff.2 ⟨interner.strings.toList, decode_encode _, ?_⟩, strings⟩
  rw [read]

theorem same_index (consistent : interner.Consistent) (otherConsistent : copy.Consistent)
    (strings : copy.strings = interner.strings) (text : String) :
    copy.index[text]? = interner.index[text]? := by
  apply Option.ext
  intro name
  rw [otherConsistent text name, consistent text name, lookup?, lookup?, strings]

end Interner

namespace Forest

variable {forest copy : Forest}

/-- A forest that is written can be read, with any number for its interner. -/
theorem of_document_self (attainable : forest.names.Attainable) (home : InternerId) :
    ∃ names, ofDocument home forest.toDocument = .ok ⟨forest.arena, names, home⟩ ∧
      names.strings = forest.names.strings := by
  obtain ⟨names, read, strings⟩ := Interner.decode_encode_self attainable
  obtain ⟨⟨kinds, types, childLists, memberLists⟩, own, number⟩ := forest
  refine ⟨names, ?_, strings⟩
  let withKinds : Draft := { kinds := some kinds.toList }
  let withTypes : Draft := { withKinds with types := some types.toList }
  let withChildLists : Draft := { withTypes with childLists := some childLists }
  let withMemberLists : Draft := { withChildLists with memberLists := some memberLists }
  let withNames : Draft := { withMemberLists with names := some names }
  have addKinds : Draft.add {} ("kinds", encode kinds.toList) = .ok withKinds :=
    bind_ok_iff.2 ⟨kinds.toList, decode_encode _, rfl⟩
  have addTypes : withKinds.add ("types", encode types.toList) = .ok withTypes :=
    bind_ok_iff.2 ⟨types.toList, decode_encode _, rfl⟩
  have addChildLists : withTypes.add ("expr_lists", encode childLists) = .ok withChildLists :=
    bind_ok_iff.2 ⟨childLists, decode_encode _, rfl⟩
  have addMemberLists :
      withChildLists.add ("member_lists", encode memberLists) = .ok withMemberLists :=
    bind_ok_iff.2 ⟨memberLists, decode_encode _, rfl⟩
  have addNames : withMemberLists.add ("interner", encode own) = .ok withNames :=
    bind_ok_iff.2 ⟨names, read, rfl⟩
  refine bind_ok_iff.2 ⟨withNames, ?_, rfl⟩
  exact fold_cons_ok addKinds (fold_cons_ok addTypes (fold_cons_ok addChildLists
    (fold_cons_ok addMemberLists (fold_cons_ok addNames rfl))))

structure SameContent (forest copy : Forest) : Prop where
  arena : copy.arena = forest.arena
  strings : copy.names.strings = forest.names.strings

namespace SameContent

theorem lookup (same : forest.SameContent copy) (name : Name) :
    copy.names.lookup? name = forest.names.lookup? name := by
  rw [Interner.lookup?, Interner.lookup?, same.strings]

theorem kept (same : forest.SameContent copy) : forest.KeptIn copy where
  kinds := by
    rw [same.arena]
    intro position kind found
    refine ⟨kind, found, ExprKind.renamed_self ?_⟩
    intro name _ text named
    rw [text_ok_iff] at named ⊢
    rw [same.lookup]
    exact named
  types := by
    rw [same.arena]
    exact .refl Eq.refl _
  childLists := by
    rw [same.arena]
    exact List.prefix_refl _
  memberLists := by
    rw [same.arena]
    exact List.prefix_refl _

theorem validate (same : forest.SameContent copy) (root : NodeId) :
    (Tree.mk copy root).validate = (Tree.mk forest root).validate := by
  obtain ⟨arena, ⟨strings, index⟩, home⟩ := forest
  obtain ⟨other, ⟨otherStrings, otherIndex⟩, otherHome⟩ := copy
  obtain ⟨rfl, rfl⟩ := same
  rfl

end SameContent

end Forest

namespace Workspace

variable {workspace : Workspace} {handle : ArenaHandle} {forest : Forest}

/-- Reading what was written of a held forest adds a copy, with an interner of its own, and leaves
the forest as it is. -/
theorem read_arena_performed (reachable : workspace.Reachable)
    (held : workspace.forest? handle = some forest) :
    ∃ after copyHandle copy,
      workspace.perform (.readArena forest.toDocument) = (after, .ok (.arena copyHandle)) ∧
      after.forest? handle = some forest ∧ after.forest? copyHandle = some copy ∧
      forest.SameContent copy ∧ copy.sharesNames forest = false := by
  obtain ⟨found, named⟩ := forest_held_iff.1 held
  have arenaInside := (Array.getElem?_eq_some_iff.1 found).1
  have namesInside := (Array.getElem?_eq_some_iff.1 named).1
  obtain ⟨names, read, strings⟩ :=
    Forest.of_document_self (reachable.names_attainable held) ⟨workspace.interners.size⟩
  let copy : Forest := ⟨forest.arena, names, ⟨workspace.interners.size⟩⟩
  let after : Workspace := { workspace with
    interners := workspace.interners.push names
    arenas := workspace.arenas.push (forest.arena, ⟨workspace.interners.size⟩) }
  refine ⟨after, ⟨workspace.arenas.size⟩, copy, ?_, ?_, ?_, ⟨rfl, strings⟩, ?_⟩
  · simp only [perform, read]
    rfl
  · rw [forest_held_iff]
    constructor
    · rw [Array.getElem?_push, if_neg (Nat.ne_of_lt arenaInside), found]
    · rw [Array.getElem?_push, if_neg (Nat.ne_of_lt namesInside), named]
  · rw [forest_held_iff]
    exact ⟨Array.getElem?_push_size, Array.getElem?_push_size⟩
  · have apart : copy.home ≠ forest.home := by
      intro same
      have number : workspace.interners.size = forest.home.number := congrArg InternerId.number same
      omega
    simpa [Forest.sharesNames] using apart

/-- An arena survives being written and read. The copy holds the same nodes, types and lists, and the
same strings under the same names, which it does not share with the original. Each root validates
with the same result in both; and a well-formed tree has the same listing and hash in both, and is
reported to be equal to its copy, in either order. -/
theorem arena_survives (reachable : workspace.Reachable)
    (held : workspace.forest? handle = some forest) :
    ∃ after copyHandle copy,
      workspace.perform (.readArena forest.toDocument) = (after, .ok (.arena copyHandle)) ∧
      after.forest? handle = some forest ∧ after.forest? copyHandle = some copy ∧
      copy.arena = forest.arena ∧ copy.names.strings = forest.names.strings ∧
      (∀ text : String, copy.names.index[text]? = forest.names.index[text]?) ∧
      copy.sharesNames forest = false ∧
      ∀ root, (Tree.mk copy root).validate = (Tree.mk forest root).validate ∧
        ((Tree.mk forest root).WellFormed →
          ∃ ids hash report reverse,
            (Tree.mk forest root).listing = .ok ids ∧ (Tree.mk copy root).listing = .ok ids ∧
            (Tree.mk forest root).hash = .ok hash ∧ (Tree.mk copy root).hash = .ok hash ∧
            (Tree.mk forest root).compare (Tree.mk copy root) = .ok report ∧
            report.result = .ok () ∧
            (Tree.mk copy root).compare (Tree.mk forest root) = .ok reverse ∧
            reverse.result = .ok ()) := by
  obtain ⟨after, copyHandle, copy, performed, stays, copied, same, apart⟩ :=
    read_arena_performed reachable held
  have reachableAfter : after.Reachable := by
    have later := reachable.perform_all [.readArena forest.toDocument]
    simp only [performAll, List.foldl_cons, List.foldl_nil, performed] at later
    exact later
  have consistent := (reachableAfter.names_attainable stays).consistent
  have copyConsistent := (reachableAfter.names_attainable copied).consistent
  refine ⟨after, copyHandle, copy, performed, stays, copied, same.arena, same.strings,
    Interner.same_index consistent copyConsistent same.strings, apart, ?_⟩
  intro root
  refine ⟨same.validate root, ?_⟩
  intro wellFormed
  have treeHeld : after.tree? handle root = some ⟨forest, root⟩ := tree_held_iff.2 ⟨stays, rfl⟩
  have copyHeld : after.tree? copyHandle root = some ⟨copy, root⟩ := tree_held_iff.2 ⟨copied, rfl⟩
  have readings : Tree.SameReadings ⟨forest, root⟩ ⟨copy, root⟩ :=
    Tree.same_readings_kept same.kept wellFormed.valid wellFormed.typed
  obtain ⟨ids, listed, copyListed⟩ := readings.listing
  obtain ⟨hash, hashed, copyHashed⟩ := readings.hash
  obtain ⟨report, compared, equal⟩ := readings.equal (reachableAfter.compatible treeHeld copyHeld)
  obtain ⟨reverse, reversed, equalToo⟩ :=
    readings.symm.equal (reachableAfter.compatible copyHeld treeHeld)
  exact ⟨ids, hash, report, reverse, listed, copyListed, hashed, copyHashed, compared, equal,
    reversed, equalToo⟩

theorem arena_survives_two_arenas :
    ∃ forest after copyHandle copy ids hash report reverse, twoArenas.Reachable ∧
      twoArenas.forest? ⟨0⟩ = some forest ∧ (Tree.mk forest ⟨2⟩).WellFormed ∧
      twoArenas.perform (.readArena forest.toDocument) = (after, .ok (.arena copyHandle)) ∧
      after.forest? ⟨0⟩ = some forest ∧ after.forest? copyHandle = some copy ∧
      copy.arena = forest.arena ∧ copy.names.strings = forest.names.strings ∧
      copy.sharesNames forest = false ∧
      (Tree.mk copy ⟨9⟩).validate = (Tree.mk forest ⟨9⟩).validate ∧
      (Tree.mk forest ⟨2⟩).listing = .ok ids ∧ (Tree.mk copy ⟨2⟩).listing = .ok ids ∧
      (Tree.mk forest ⟨2⟩).hash = .ok hash ∧ (Tree.mk copy ⟨2⟩).hash = .ok hash ∧
      (Tree.mk forest ⟨2⟩).compare (Tree.mk copy ⟨2⟩) = .ok report ∧ report.result = .ok () ∧
      (Tree.mk copy ⟨2⟩).compare (Tree.mk forest ⟨2⟩) = .ok reverse ∧ reverse.result = .ok () := by
  obtain ⟨⟨forest, root⟩, treeHeld, _, _, wellFormed, _⟩ := two_arenas_held
  obtain ⟨held, rfl⟩ := tree_held_iff.1 treeHeld
  obtain ⟨after, copyHandle, copy, performed, stays, copied, arena, strings, _, apart, roots⟩ :=
    arena_survives two_arenas_reachable held
  obtain ⟨ids, hash, report, reverse, conclusion⟩ := (roots ⟨2⟩).2 wellFormed
  exact ⟨forest, after, copyHandle, copy, ids, hash, report, reverse, two_arenas_reachable, held,
    wellFormed, performed, stays, copied, arena, strings, apart, (roots ⟨9⟩).1, conclusion⟩

end Workspace

end ExprTree
