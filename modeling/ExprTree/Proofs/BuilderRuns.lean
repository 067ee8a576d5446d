import ExprTree.Proofs.Building

/-!
Runs that build trees bottom up in an arena, whatever the arena held before and whatever else is
done in between. The log of a run says what was built and under which number. While each call refers
only to nodes of the log, every logged node stands, with what was built below it, for good.
-/

namespace ExprTree

set_option autoImplicit false

/-- What was built, and the number that it got. -/
abbrev BuildLog := List (Construction × NodeId)

structure Construction.Proper (construction : Construction) (log : BuildLog) (forest : Forest) :
    Prop where
  given : ∀ child ∈ construction.children, ∃ call ∈ log, call.2 = child
  list : construction.list.length < UInt16.size
  bound : construction.bound.length < UInt16.size
  bindsAll : construction.bound = [] ∨ construction.bound.length = construction.list.length
  params : ∀ body params type, construction = .lambda body params type → ∀ param ∈ params,
    ∃ name type, (.parameter name type, param) ∈ log
  names : ∀ name type, construction = .constant (.text name) type → forest.names.contains name

namespace Forest

/-- The node is accepted, and unfolds to the label above what the children of the construction
unfold to; so does the tree below it, unless the number of the node is the one for an absent root. -/
structure Realizes (forest : Forest) (construction : Construction) (id : NodeId) (label : Label)
    (terms : List Term) : Prop where
  valid : (Tree.mk forest id).validate = .ok ()
  children : List.Forall₂ (fun child term => (Tree.mk forest child).unfold = .ok (some term))
    construction.children terms
  node : forest.unfold (Tree.mk forest id).depthBound id = .ok (.node label terms)
  tree : (Tree.mk forest id).unfold =
    .ok (if id.isPresent then some (.node label terms) else none)

structure Holds (forest : Forest) (log : BuildLog) : Prop where
  aligned : forest.arena.types.size = forest.arena.kinds.size
  stands : ∀ call ∈ log, forest.Stands call.2
  params : ∀ text type id, (.parameter text type, id) ∈ log →
    ∃ name, forest.arena.kinds[id.index]? = some (.parameter name)

variable {forest before grown : Forest} {log : BuildLog} {construction : Construction}
  {id : NodeId} {label : Label} {term : Term} {terms : List Term}

theorem Stands.valid (stands : forest.Stands id) : (Tree.mk forest id).validate = .ok () := by
  by_cases present : id.isPresent
  · apply Tree.validate_rooted
    exact ⟨Arena.contains_iff.2 ⟨present, stands.inside⟩, fun below reached =>
      (stands.readable below reached).1⟩
  · exact Tree.validate_absent present

theorem tree_unfold (unfolded : forest.unfold (Tree.mk forest id).depthBound id = .ok term) :
    (Tree.mk forest id).unfold = .ok (if id.isPresent then some term else none) := by
  by_cases present : id.isPresent
  · rw [Tree.unfold, if_neg (by simp [Tree.isAbsent, present]), unfolded, if_pos present]
    rfl
  · rw [Tree.unfold, if_pos (by simp [Tree.isAbsent, present]), if_neg present]

namespace Holds

theorem later (holds : before.Holds log) (grows : before.Extends grown) : grown.Holds log where
  aligned := grows.arena.aligned.1 holds.aligned
  stands call member := grows.kept.stands (holds.stands call member)
  params := by
    intro text type id member
    obtain ⟨name, found⟩ := holds.params text type id member
    obtain ⟨_, foundLater, rfl⟩ := KeptBy.of_prefix grows.arena.kinds _ _ found
    exact ⟨name, foundLater⟩

theorem fits (holds : forest.Holds log) (proper : construction.Proper log forest) :
    construction.Fits forest where
  children := by
    intro child member
    obtain ⟨call, logged, rfl⟩ := proper.given child member
    exact holds.stands call logged
  bound := proper.bindsAll
  params := by
    intro body params type same param member
    obtain ⟨text, own, logged⟩ := proper.params body params type same param member
    exact holds.params text own param logged
  names := by
    intro name type same
    exact of_decide_eq_true (proper.names name type same)

theorem call (holds : before.Holds log) (consistent : before.names.Consistent)
    (proper : construction.Proper log before)
    (ran : construction.build.run before = (.ok id, grown)) :
    grown.Holds (log ++ [(construction, id)]) := by
  have grows := Construction.build_extends ran
  have earlier := holds.later grows
  obtain ⟨name, range, members, stored⟩ := Construction.stored_of_build ran
  refine ⟨earlier.aligned, ?stands, ?params⟩
  case stands =>
    intro call member
    rcases List.mem_append.1 member with before | last
    · exact earlier.stands call before
    · rw [List.mem_singleton.1 last]
      exact stored.stands grows (holds.fits proper) consistent holds.aligned
  case params =>
    intro text type own member
    rcases List.mem_append.1 member with before | last
    · exact earlier.params text type own before
    · cases List.mem_singleton.1 last
      exact ⟨name, stored.found⟩

end Holds

/-- What is built is there, and stays, with what it was built from. -/
theorem realizes_of_build (holds : before.Holds log) (consistent : before.names.Consistent)
    (proper : construction.Proper log before)
    (ran : construction.build.run before = (.ok id, grown)) :
    id.index = before.arena.size ∧ ∃ label terms, construction.label before = .ok label ∧
      ∀ later, grown.Extends later → later.Realizes construction id label terms := by
  have grows := Construction.build_extends ran
  have fits := holds.fits proper
  obtain ⟨name, range, members, stored⟩ := Construction.stored_of_build ran
  have stands := stored.stands grows fits consistent holds.aligned
  obtain ⟨label, terms, said, each, unfolded⟩ :=
    stored.unfold grows fits consistent holds.aligned
  refine ⟨stored.index, label, terms, said, ?_⟩
  intro later extended
  have larger := grows.kept.larger
  have largest := extended.kept.larger
  have node : later.unfold (Tree.mk later id).depthBound id = .ok (.node label terms) := by
    have last := stands.inside
    have index := stored.index
    apply extended.kept.unfold stands unfolded
    simp only [Tree.depthBound]
    omega
  refine ⟨(extended.kept.stands stands).valid, ?_, node, tree_unfold node⟩
  refine ((List.forall₂_and_left _ terms).2 ⟨fits.children, each⟩).imp ?_
  intro child term facts
  have present := stored.present facts.1.inside
  have below : later.unfold (Tree.mk later child).depthBound child = .ok term := by
    apply (grows.trans extended).kept.unfold facts.1 facts.2
    simp only [Tree.depthBound]
    omega
  rw [tree_unfold below, if_pos present]

end Forest

namespace Workspace

/-- The log of a run from one workspace to another: the calls that build in one arena, each of them
proper and answered. What else is done on the way is not logged, whatever it is. -/
inductive Built (handle : ArenaHandle) (start : Workspace) : BuildLog → Workspace → Prop where
  | start : Built handle start [] start
  | call {log : BuildLog} {workspace : Workspace} {forest : Forest} {construction : Construction}
      {id : NodeId} (earlier : Built handle start log workspace)
      (held : workspace.forest? handle = some forest) (proper : construction.Proper log forest)
      (answered : (workspace.perform (.build handle construction)).2 = .ok (.node id)) :
      Built handle start (log ++ [(construction, id)])
        (workspace.perform (.build handle construction)).1
  | other {log : BuildLog} {workspace : Workspace} (earlier : Built handle start log workspace)
      (action : Action) : Built handle start log (workspace.perform action).1

variable {start workspace : Workspace} {handle : ArenaHandle} {first forest : Forest}
  {log : BuildLog} {construction : Construction}

theorem Built.reachable (built : start.Built handle log workspace) (reachable : start.Reachable) :
    workspace.Reachable := by
  induction built with
  | start => exact reachable
  | @call log workspace forest construction id earlier held proper answered induction =>
      exact induction.perform_all [.build handle construction]
  | @other log workspace earlier action induction => exact induction.perform_all [action]

theorem Built.holds (built : start.Built handle log workspace) (reachable : start.Reachable)
    (heldFirst : start.forest? handle = some first)
    (aligned : first.arena.types.size = first.arena.kinds.size) :
    ∃ forest, workspace.forest? handle = some forest ∧ forest.Holds log := by
  induction built with
  | start => exact ⟨first, heldFirst, aligned, by simp, by simp⟩
  | @call log workspace forest construction id earlier held proper answered induction =>
      obtain ⟨other, heldOther, holds⟩ := induction
      rw [held, Option.some.injEq] at heldOther
      subst heldOther
      have consistent := ((earlier.reachable reachable).names_attainable held).consistent
      obtain ⟨grown, ran, heldGrown⟩ := built_ok held answered
      exact ⟨grown, heldGrown, holds.call consistent proper ran⟩
  | @other log workspace earlier action induction =>
      obtain ⟨forest, held, holds⟩ := induction
      obtain ⟨later, heldLater, grown⟩ := (tracks_extends.perform workspace action).forest held
      exact ⟨later, heldLater, holds.later grown⟩

/-- The builder builds what it is told. In an arena with a type for each node, and otherwise in any
state, whatever has been built so far: a proper call is answered with a node if there is room; the
node is new and later than all that the log has; and it is accepted and unfolds to the label that
the call asks for, above what its arguments unfold to in order, now and after anything else is
done. The tree below it does so too, but for the last node that an arena can have. -/
theorem build_realizes (reachable : start.Reachable) (heldFirst : start.forest? handle = some first)
    (aligned : first.arena.types.size = first.arena.kinds.size)
    (built : start.Built handle log workspace) (held : workspace.forest? handle = some forest)
    (proper : construction.Proper log forest) :
    (forest.HasRoom → ∃ id, (workspace.perform (.build handle construction)).2 = .ok (.node id)) ∧
      ∀ id, (workspace.perform (.build handle construction)).2 = .ok (.node id) →
        id.index = forest.arena.size ∧ (∀ call ∈ log, call.2.index < id.index) ∧
        ∃ label terms, construction.label forest = .ok label ∧
          ∀ actions, ∃ later,
            ((workspace.perform (.build handle construction)).1.performAll actions).forest?
              handle = some later ∧ later.Realizes construction id label terms := by
  obtain ⟨other, heldOther, holds⟩ := built.holds reachable heldFirst aligned
  rw [held, Option.some.injEq] at heldOther
  subst heldOther
  have consistent := ((built.reachable reachable).names_attainable held).consistent
  constructor
  · intro room
    obtain ⟨id, grown, ran⟩ := Construction.build_answers room proper.list proper.bound
    refine ⟨id, ?_⟩
    rw [build_answer held construction, ran]
    rfl
  · intro id answered
    obtain ⟨grown, ran, heldGrown⟩ := built_ok held answered
    obtain ⟨index, label, terms, said, realized⟩ :=
      Forest.realizes_of_build holds consistent proper ran
    refine ⟨index, ?_, label, terms, said, ?_⟩
    · intro call member
      rw [index]
      exact (holds.stands call member).inside
    · intro actions
      obtain ⟨later, heldLater, extended⟩ :=
        (tracks_extends.perform_all _ actions).forest heldGrown
      exact ⟨later, heldLater, realized later extended⟩

/-- An arena with a node and a list that refer to nothing. -/
def scribbled : Workspace :=
  performAll {}
    [.newArena none, .push ⟨0⟩ ⟨.unary .not .absent .builtin, .bool⟩, .pushChildren ⟨0⟩ [⟨7⟩, ⟨9⟩]]

def withParameter : Workspace := (scribbled.perform (.build ⟨0⟩ (.parameter "x" .int))).1

def withCall : Workspace :=
  (withParameter.perform (.build ⟨0⟩ (.call none ⟨3⟩ [⟨1⟩, ⟨1⟩] .int))).1

theorem scribbled_held :
    ∃ first ∈ scribbled.forest? ⟨0⟩, ∃ between ∈ withParameter.forest? ⟨0⟩,
      ∃ last ∈ withCall.forest? ⟨0⟩, first.arena.types.size = first.arena.kinds.size ∧
      (scribbled.perform (.build ⟨0⟩ (.parameter "x" .int))).2 = .ok (.node ⟨1⟩) ∧
      (withParameter.perform (.build ⟨0⟩ (.call none ⟨3⟩ [⟨1⟩, ⟨1⟩] .int))).2 = .ok (.node ⟨2⟩) ∧
      (withCall.perform (.build ⟨0⟩ (.lambda ⟨2⟩ [⟨1⟩] ⟨8⟩))).2 = .ok (.node ⟨3⟩) := by
  decide +kernel

/-- A function of one parameter, which its body uses twice, built behind the scribbles. -/
theorem build_realizes_scribbled :
    ∃ first forest, scribbled.Reachable ∧ scribbled.forest? ⟨0⟩ = some first ∧
      first.arena.types.size = first.arena.kinds.size ∧
      scribbled.Built ⟨0⟩
        [(.parameter "x" .int, ⟨1⟩), (.call none ⟨3⟩ [⟨1⟩, ⟨1⟩] .int, ⟨2⟩)] withCall ∧
      withCall.forest? ⟨0⟩ = some forest ∧
      (withCall.perform (.build ⟨0⟩ (.lambda ⟨2⟩ [⟨1⟩] ⟨8⟩))).2 = .ok (.node ⟨3⟩) ∧
      ∃ terms, ∀ actions, ∃ later,
        ((withCall.perform (.build ⟨0⟩ (.lambda ⟨2⟩ [⟨1⟩] ⟨8⟩))).1.performAll
          actions).forest? ⟨0⟩ = some later ∧
        later.Realizes (.lambda ⟨2⟩ [⟨1⟩] ⟨8⟩) ⟨3⟩ ⟨.lambda, ⟨8⟩, .nothing⟩ terms := by
  obtain ⟨first, held, between, heldBetween, last, heldLast, aligned, parameter, called, answered⟩ :=
    scribbled_held
  have afterParameter : scribbled.Built ⟨0⟩ [(.parameter "x" .int, ⟨1⟩)] withParameter := by
    refine .call .start held ⟨?_, by decide, by decide, .inl rfl, ?_, ?_⟩ parameter <;>
      simp [Construction.children]
  have afterCall : scribbled.Built ⟨0⟩
      [(.parameter "x" .int, ⟨1⟩), (.call none ⟨3⟩ [⟨1⟩, ⟨1⟩] .int, ⟨2⟩)] withCall := by
    refine .call afterParameter heldBetween ⟨?_, by decide, by decide, .inl rfl, ?_, ?_⟩ called <;>
      simp [Construction.children]
  have proper : Construction.Proper (.lambda ⟨2⟩ [⟨1⟩] ⟨8⟩)
      [(.parameter "x" .int, ⟨1⟩), (.call none ⟨3⟩ [⟨1⟩, ⟨1⟩] .int, ⟨2⟩)] last := by
    refine ⟨?_, by decide, by decide, .inl rfl, ?_, ?_⟩ <;> simp [Construction.children]
  obtain ⟨_, _, label, terms, said, realized⟩ :=
    (build_realizes ⟨_, rfl⟩ held aligned afterCall heldLast proper).2 ⟨3⟩ answered
  cases said
  exact ⟨first, last, ⟨_, rfl⟩, held, aligned, afterCall, heldLast, answered, terms, realized⟩

def filled (count : Nat) : Workspace :=
  performAll {} (.newArena none :: List.replicate count (.build ⟨0⟩ (.bool true)))

theorem filled_succ (count : Nat) :
    filled (count + 1) = ((filled count).perform (.build ⟨0⟩ (.bool true))).1 := by
  rw [filled, List.replicate_succ', ← List.cons_append]
  exact List.foldl_append

theorem filled_held {count : Nat} (few : count ≤ UInt32.size) :
    ∃ forest, (filled count).forest? ⟨0⟩ = some forest ∧ forest.arena.kinds.size = count ∧
      forest.arena.types.size = count := by
  induction count with
  | zero => exact ⟨_, rfl, rfl, rfl⟩
  | succ count induction =>
      obtain ⟨forest, held, kinds, types⟩ := induction (Nat.le_of_succ_le few)
      have room : forest.arena.size < UInt32.size := by
        rw [Arena.size, kinds]
        exact few
      have heldAfter := on_forest_held held (Build.construction_additive (.bool true))
      rw [Construction.build, Build.node_run, if_pos room] at heldAfter
      refine ⟨_, (congrArg (forest? · ⟨0⟩) (filled_succ count)).trans heldAfter, ?_, ?_⟩
      · rw [Array.size_push, kinds]
      · rw [Array.size_push, types]

/-- The last node that an arena can have is stored under the number for an absent root: no tree
unfolds to it. -/
theorem last_node_lost :
    ∃ forest grown, (filled (UInt32.size - 1)).Reachable ∧
      (filled (UInt32.size - 1)).forest? ⟨0⟩ = some forest ∧
      forest.arena.types.size = forest.arena.kinds.size ∧
      Construction.Proper (.int 5) [] forest ∧
      ((filled (UInt32.size - 1)).perform (.build ⟨0⟩ (.int 5))).2 = .ok (.node .absent) ∧
      ((filled (UInt32.size - 1)).perform (.build ⟨0⟩ (.int 5))).1.forest? ⟨0⟩ = some grown ∧
      grown.arena.kind .absent = .ok (.constant (.int 5)) ∧
      grown.arena.contains .absent = false ∧ (Tree.mk grown .absent).unfold = .ok none := by
  obtain ⟨forest, held, kinds, types⟩ := filled_held (Nat.sub_le UInt32.size 1)
  -- One node still fits, and the number that is left for it is the one of an absent root.
  have room : forest.arena.size < UInt32.size := by
    rw [Arena.size, kinds]
    decide
  have ran : (Construction.int 5).build.run forest =
      (.ok ⟨.ofNat (UInt32.size - 1)⟩,
        { forest with
          arena.kinds := forest.arena.kinds.push (.constant (.int 5))
          arena.types := forest.arena.types.push .int }) := by
    rw [Construction.build, Build.node_run, if_pos room, Arena.size, kinds]
  have answered := build_answer held (.int 5)
  rw [ran] at answered
  obtain ⟨grown, ranToo, heldGrown⟩ := built_ok held answered
  rw [ran] at ranToo
  cases ranToo
  refine ⟨forest, _, ⟨_, rfl⟩, held, types.trans kinds.symm, ?proper, answered, heldGrown, ?node,
    rfl, rfl⟩
  case proper => exact ⟨nofun, by decide, by decide, .inl rfl, nofun, nofun⟩
  case node =>
    apply Arena.kind_ok_iff.2
    have last : NodeId.absent.index = forest.arena.kinds.size := kinds.symm
    rw [last, Array.getElem?_push_size]

end Workspace

end ExprTree
