import ExprTree.Proofs.Matching
import ExprTree.Proofs.Reachability

/-!
What a comparison reports: the first difference in pre-order. Two nodes differ in kind, or else in
type, or else in an attribute; of several attributes the one of least rank is named. The listings of
two trees are compared position by position, and up to the end of the shorter one only equal trees
agree throughout.
-/

namespace ExprTree

set_option autoImplicit false

/-- Where an attribute stands in the order in which a kind's attributes are compared. Attributes of
one kind have different ranks. -/
def Attribute.rank : Attribute → Nat
  | .value | .parameterName | .typeOperand | .member | .method | .operatorMethod | .ctor => 0
  | .target | .lifted => 1
  | .arity | .liftedToNull => 2
  | .boundMemberCount => 3
  | .boundMember index => index + 4

def Content.attribute? (arity : Option Nat) : Content → Attribute → Option Meaning
  | .literal value, .value => some value.meaning
  | .member id _, .member => some (.plain (.member id))
  | .method id _, .method => some (.plain (.method id))
  | .member _ targeted, .target | .method _ targeted, .target => some (.plain (.flag targeted))
  | .parameter name, .parameterName => some (.name name)
  | .tested type, .typeOperand => some (.plain (.type type))
  | .operator info, .operatorMethod => some (.plain (.operatorMethod info.method))
  | .operator info, .lifted => some (.plain (.flag info.lifted))
  | .operator info, .liftedToNull => some (.plain (.flag info.liftedToNull))
  | .creation ctor _, .ctor => some (.plain (.ctor ctor))
  | .creation _ bound, .boundMemberCount => some (.plain (.count bound.length))
  | .creation _ bound, .boundMember index => bound[index]?.map fun id => .plain (.member id)
  | .method .., .arity | .creation .., .arity | .nothing, .arity =>
      arity.map fun length => .plain (.count length)
  | _, _ => none

namespace Forest

/-- What a node of the kind has for an attribute, strings in place of names. -/
def attribute? (forest : Forest) (kind : ExprKind) (key : Attribute) : Option Meaning :=
  (forest.content kind).toOption.bind fun content => content.attribute? kind.arity? key

def Alike (left right : Forest) (leftId rightId : NodeId) : Prop :=
  ∃ leftKind rightKind type,
    left.arena.kind leftId = .ok leftKind ∧ right.arena.kind rightId = .ok rightKind ∧
    left.arena.type leftId = .ok type ∧ right.arena.type rightId = .ok type ∧
    leftKind.nodeKind = rightKind.nodeKind ∧
    ∀ key, left.attribute? leftKind key = right.attribute? rightKind key

def AlikeAt (left right : Forest) (lefts rights : Array NodeId) (position : Nat) : Prop :=
  ∀ leftId rightId, lefts[position]? = some leftId → rights[position]? = some rightId →
    left.Alike right leftId rightId

inductive FirstDifference (left right : Forest) (leftId rightId : NodeId) : Mismatch → Prop where
  | kind {leftKind rightKind : ExprKind}
      (leftIs : left.arena.kind leftId = .ok leftKind)
      (rightIs : right.arena.kind rightId = .ok rightKind)
      (apart : leftKind.nodeKind ≠ rightKind.nodeKind) :
      FirstDifference left right leftId rightId
        (.kind leftId rightId leftKind.nodeKind rightKind.nodeKind)
  | type {leftKind rightKind : ExprKind} {leftType rightType : TypeId}
      (leftIs : left.arena.kind leftId = .ok leftKind)
      (rightIs : right.arena.kind rightId = .ok rightKind)
      (kinds : leftKind.nodeKind = rightKind.nodeKind)
      (leftTyped : left.arena.type leftId = .ok leftType)
      (rightTyped : right.arena.type rightId = .ok rightType)
      (apart : leftType ≠ rightType) :
      FirstDifference left right leftId rightId (.type leftId rightId leftType rightType)
  | attributes {leftKind rightKind : ExprKind} {type : TypeId} {key : Attribute}
      (leftIs : left.arena.kind leftId = .ok leftKind)
      (rightIs : right.arena.kind rightId = .ok rightKind)
      (kinds : leftKind.nodeKind = rightKind.nodeKind)
      (leftTyped : left.arena.type leftId = .ok type)
      (rightTyped : right.arena.type rightId = .ok type)
      (apart : left.attribute? leftKind key ≠ right.attribute? rightKind key)
      (first : ∀ other, left.attribute? leftKind other ≠ right.attribute? rightKind other →
        key.rank ≤ other.rank) :
      FirstDifference left right leftId rightId (.attributes leftId rightId key)

end Forest

/-! ### Attributes by rank -/

namespace Content

theorem attribute_some_iff {arity : Option Nat} {content : Content} {key : Attribute}
    {meaning : Meaning} :
    content.attribute? arity key = some meaning ↔ (key, meaning) ∈ content.traits arity := by
  cases content <;> cases key
  case creation.boundMember ctor bound index =>
    simp [attribute?, traits, arityTraits, List.getElem?_eq_some_iff]
  all_goals cases arity <;> simp [attribute?, traits, arityTraits, eq_comm]

theorem traits_sorted {kind : NodeKind} {content : Content} {arity : Option Nat}
    (suits : content.Suits kind arity) :
    (content.traits arity).Pairwise fun before after => before.1.rank < after.1.rank := by
  cases suits with
  | new ctor bound arity =>
      have parts : (Content.creation ctor bound).traits (some arity) =
          [(.ctor, .plain (.ctor ctor)), (.arity, .plain (.count arity)),
            (.boundMemberCount, .plain (.count bound.length))] ++
          bound.mapIdx fun index member => (.boundMember index, .plain (.member member)) := rfl
      rw [parts, List.pairwise_append]
      refine ⟨by simp [Attribute.rank], ?_, ?_⟩
      · rw [List.pairwise_iff_getElem]
        intro earlier later _ _ sooner
        simpa [Attribute.rank] using sooner
      · intro before first after later
        obtain ⟨index, _, rfl⟩ := List.mem_mapIdx.1 later
        have low : before.1.rank < 4 := by
          simp only [List.mem_cons, List.not_mem_nil, or_false] at first
          rcases first with rfl | rfl | rfl <;> simp [Attribute.rank]
        exact Nat.lt_of_lt_of_le low (Nat.le_add_left 4 index)
  | _ => simp [traits, arityTraits, Attribute.rank]

theorem traits_aligned {kind : NodeKind} {left right : Content} {leftArity rightArity : Option Nat}
    (leftSuits : left.Suits kind leftArity) (rightSuits : right.Suits kind rightArity) :
    ∀ (position : Nat) leftTrait rightTrait, (left.traits leftArity)[position]? = some leftTrait →
      (right.traits rightArity)[position]? = some rightTrait → leftTrait.1 = rightTrait.1 := by
  intro position leftTrait rightTrait leftAt rightAt
  cases leftSuits with
  | new ctor bound arity =>
      cases rightSuits
      rcases position with _ | _ | _ | position <;>
        grind [traits, arityTraits]
  | _ =>
      cases rightSuits
      grind [traits, arityTraits]

end Content

theorem first_apart_some {lefts rights : List (Attribute × Meaning)} {key : Attribute}
    (aligned : ∀ (position : Nat) left right, lefts[position]? = some left →
      rights[position]? = some right → left.1 = right.1)
    (apart : firstApart lefts rights = some key) :
    ∃ shared left right leftRest rightRest, lefts = shared ++ (key, left) :: leftRest ∧
      rights = shared ++ (key, right) :: rightRest ∧ left ≠ right := by
  induction lefts generalizing rights with
  | nil => simp [firstApart] at apart
  | cons first lefts induction =>
      cases rights with
      | nil => simp [firstApart] at apart
      | cons other rights =>
          obtain ⟨leftKey, left⟩ := first
          obtain ⟨rightKey, right⟩ := other
          have keys : leftKey = rightKey := aligned 0 _ _ rfl rfl
          by_cases same : left = right
          · rw [firstApart, if_pos same] at apart
            obtain ⟨shared, leftMeaning, rightMeaning, leftRest, rightRest, rfl, rfl, differ⟩ :=
              induction (fun position => aligned (position + 1)) apart
            exact ⟨(leftKey, left) :: shared, leftMeaning, rightMeaning, leftRest, rightRest, rfl,
              by rw [keys, same]; rfl, differ⟩
          · rw [firstApart, if_neg same, Option.some.injEq] at apart
            rw [← keys, apart]
            exact ⟨[], left, right, lefts, rights, rfl, rfl, same⟩

/-- In a list that is sorted by rank, what has less rank than an entry stands before it. -/
theorem mem_before_iff {shared rest : List (Attribute × Meaning)} {key other : Attribute}
    {own meaning : Meaning}
    (sorted : (shared ++ (key, own) :: rest).Pairwise fun before after =>
      before.1.rank < after.1.rank) (lower : other.rank < key.rank) :
    (other, meaning) ∈ shared ++ (key, own) :: rest ↔ (other, meaning) ∈ shared := by
  have after := (List.pairwise_cons.1 (List.pairwise_append.1 sorted).2.1).1
  rw [List.mem_append, List.mem_cons, Prod.mk.injEq]
  apply or_iff_left
  intro later
  rcases later with ⟨same, _⟩ | member
  · rw [same] at lower
    exact Nat.lt_irrefl _ lower
  · exact Nat.lt_asymm lower (after (other, meaning) member)

theorem Content.first_apart_least {kind : NodeKind} {left right : Content}
    {leftArity rightArity : Option Nat} {key : Attribute}
    (leftSuits : left.Suits kind leftArity) (rightSuits : right.Suits kind rightArity)
    (apart : firstApart (left.traits leftArity) (right.traits rightArity) = some key) :
    left.attribute? leftArity key ≠ right.attribute? rightArity key ∧
      ∀ other, left.attribute? leftArity other ≠ right.attribute? rightArity other →
        key.rank ≤ other.rank := by
  obtain ⟨shared, leftMeaning, rightMeaning, leftRest, rightRest, leftIs, rightIs, differ⟩ :=
    first_apart_some (traits_aligned leftSuits rightSuits) apart
  have leftSorted := traits_sorted leftSuits
  have rightSorted := traits_sorted rightSuits
  rw [leftIs] at leftSorted
  rw [rightIs] at rightSorted
  have leftHas : left.attribute? leftArity key = some leftMeaning := by
    rw [attribute_some_iff, leftIs]
    simp
  have rightHas : right.attribute? rightArity key = some rightMeaning := by
    rw [attribute_some_iff, rightIs]
    simp
  constructor
  · rw [leftHas, rightHas]
    simpa using differ
  · intro other otherDiffers
    apply Nat.le_of_not_lt
    intro lower
    apply otherDiffers
    apply Option.ext
    intro meaning
    rw [attribute_some_iff, attribute_some_iff, leftIs, rightIs, mem_before_iff leftSorted lower,
      mem_before_iff rightSorted lower]

namespace Forest

variable {left right : Forest} {leftReading rightReading : Reading}

theorem Reads.attributes {forest : Forest} {reading : Reading} (read : forest.Reads reading) :
    ∃ kind, forest.arena.kind reading.id = .ok kind ∧
      forest.arena.type reading.id = .ok reading.label.type ∧
      kind.nodeKind = reading.label.kind ∧
      ∀ key, forest.attribute? kind key =
        reading.label.content.attribute? (reading.label.arity reading.count) key := by
  obtain ⟨⟨⟨kind, found, sound⟩, _⟩, entered⟩ := read
  obtain ⟨id, label, count⟩ := reading
  have kindRead := Arena.kind_ok_iff.2 found
  obtain ⟨ownLabel, labelled, counted⟩ := bind_ok_iff.1 entered
  rw [kindRead] at counted
  cases counted
  obtain ⟨own, ownRead, labelled⟩ := bind_ok_iff.1 labelled
  rw [kindRead] at ownRead
  cases ownRead
  obtain ⟨type, typed, labelled⟩ := bind_ok_iff.1 labelled
  obtain ⟨content, held, same⟩ := bind_ok_iff.1 labelled
  cases same
  refine ⟨kind, kindRead, typed, rfl, ?_⟩
  intro key
  rw [attribute?, held, arity_of_sound sound held]
  rfl

theorem alike_of_match (leftRead : left.Reads leftReading) (rightRead : right.Reads rightReading)
    (same : leftReading.mismatch? rightReading = none) :
    left.Alike right leftReading.id rightReading.id := by
  have entries := (Reading.mismatch_none_iff leftRead.fits rightRead.fits).1 same
  rw [Reading.entry, Reading.entry, Prod.mk.injEq] at entries
  obtain ⟨leftKind, leftIs, leftTyped, leftNodeKind, leftHas⟩ := leftRead.attributes
  obtain ⟨rightKind, rightIs, rightTyped, rightNodeKind, rightHas⟩ := rightRead.attributes
  rw [entries.1] at leftTyped leftNodeKind
  refine ⟨leftKind, rightKind, _, leftIs, rightIs, leftTyped, rightTyped, ?_, ?_⟩
  · rw [leftNodeKind, rightNodeKind]
  · intro key
    rw [leftHas, rightHas, entries.1, entries.2]

theorem first_difference_of_mismatch {mismatch : Mismatch} (leftRead : left.Reads leftReading)
    (rightRead : right.Reads rightReading)
    (apart : leftReading.mismatch? rightReading = some mismatch) :
    left.FirstDifference right leftReading.id rightReading.id mismatch := by
  obtain ⟨leftKind, leftIs, leftTyped, leftNodeKind, leftHas⟩ := leftRead.attributes
  obtain ⟨rightKind, rightIs, rightTyped, rightNodeKind, rightHas⟩ := rightRead.attributes
  rcases Profile.mismatch_some apart with
    ⟨kinds, rfl⟩ | ⟨kinds, types, rfl⟩ | ⟨kinds, types, key, first, rfl⟩
  · simp only [Reading.profile_kind, ← leftNodeKind, ← rightNodeKind] at kinds ⊢
    exact .kind leftIs rightIs kinds
  · have nodeKinds := leftNodeKind.trans (kinds.trans rightNodeKind.symm)
    exact .type leftIs rightIs nodeKinds leftTyped rightTyped types
  · have nodeKinds := leftNodeKind.trans (kinds.trans rightNodeKind.symm)
    have rightSuits := rightRead.fits.suits
    rw [Reading.profile_kind, Reading.profile_kind] at kinds
    rw [Reading.profile_type, Reading.profile_type] at types
    rw [← kinds] at rightSuits
    rw [← types] at rightTyped
    have least := Content.first_apart_least leftRead.fits.suits rightSuits first
    simp only [← leftHas, ← rightHas] at least
    exact .attributes leftIs rightIs nodeKinds leftTyped rightTyped least.1 least.2

theorem Alike.no_difference {leftId rightId : NodeId} {mismatch : Mismatch}
    (alike : left.Alike right leftId rightId) :
    ¬left.FirstDifference right leftId rightId mismatch := by
  obtain ⟨leftKind, rightKind, type, leftIs, rightIs, leftTyped, rightTyped, kinds, same⟩ := alike
  intro difference
  cases difference with
  | kind otherLeft otherRight apart =>
      rw [leftIs] at otherLeft
      rw [rightIs] at otherRight
      cases otherLeft
      cases otherRight
      exact apart kinds
  | type _ _ _ otherLeft otherRight apart =>
      rw [leftTyped] at otherLeft
      rw [rightTyped] at otherRight
      cases otherLeft
      cases otherRight
      exact apart rfl
  | attributes otherLeft otherRight _ _ _ apart _ =>
      rw [leftIs] at otherLeft
      rw [rightIs] at otherRight
      cases otherLeft
      cases otherRight
      exact apart (same _)

theorem alike_iff_match (leftRead : left.Reads leftReading) (rightRead : right.Reads rightReading) :
    left.Alike right leftReading.id rightReading.id ↔
      leftReading.mismatch? rightReading = none := by
  constructor
  · intro alike
    apply Option.eq_none_iff_forall_ne_some.2
    intro mismatch apart
    exact alike.no_difference (first_difference_of_mismatch leftRead rightRead apart)
  · exact alike_of_match leftRead rightRead

theorem alike_at_iff {lefts rights : List Reading} (leftRead : ∀ left' ∈ lefts, left.Reads left')
    (rightRead : ∀ right' ∈ rights, right.Reads right') (position : Nat) :
    left.AlikeAt right (lefts.map Reading.id).toArray (rights.map Reading.id).toArray position ↔
      ∀ leftReading rightReading, lefts[position]? = some leftReading →
        rights[position]? = some rightReading → leftReading.mismatch? rightReading = none := by
  simp only [AlikeAt, List.getElem?_toArray, List.getElem?_map, Option.map_eq_some_iff,
    forall_exists_index, and_imp]
  constructor
  · intro alike leftReading rightReading leftAt rightAt
    apply (alike_iff_match (leftRead _ (List.mem_of_getElem? leftAt))
      (rightRead _ (List.mem_of_getElem? rightAt))).1
    exact alike _ _ leftReading leftAt rfl rightReading rightAt rfl
  · intro agree _ _ leftReading leftAt leftIs rightReading rightAt rightIs
    rw [← leftIs, ← rightIs]
    apply (alike_iff_match (leftRead _ (List.mem_of_getElem? leftAt))
      (rightRead _ (List.mem_of_getElem? rightAt))).2
    exact agree leftReading rightReading leftAt rightAt

end Forest

namespace Comparison

variable {comparison : Comparison} {left right : NodeId}

/-- The attributes of two nodes are only compared if the nodes are of one kind. -/
theorem head_difference_none (same : comparison.headDifference left right = .ok none) :
    ∃ leftKind rightKind, comparison.left.arena.kind left = .ok leftKind ∧
      comparison.right.arena.kind right = .ok rightKind ∧
      leftKind.nodeKind = rightKind.nodeKind := by
  obtain ⟨leftKind, leftIs, same⟩ := bind_ok_iff.1 same
  obtain ⟨rightKind, rightIs, same⟩ := bind_ok_iff.1 same
  refine ⟨leftKind, rightKind, leftIs, rightIs, ?_⟩
  by_contra apart
  simp [apart, pure, Except.pure] at same

/-- So no difference in kind is found by then. -/
theorem attribute_difference_some {mismatch : Mismatch}
    (same : comparison.headDifference left right = .ok none)
    (apart : comparison.attributeDifference left right = .ok (some mismatch)) :
    ∃ first, mismatch = .attributes left right first := by
  obtain ⟨leftKind, rightKind, leftIs, rightIs, kinds⟩ := head_difference_none same
  rw [attribute_difference_eq leftIs rightIs kinds] at apart
  obtain ⟨difference, _, found⟩ := map_ok_iff.1 apart
  obtain ⟨first, _, is⟩ := Option.map_eq_some_iff.1 found
  exact ⟨first, is.symm⟩

end Comparison

namespace Tree

variable {workspace : Workspace} {leftHandle rightHandle : ArenaHandle}
  {leftRoot rightRoot : NodeId} {left right : Tree}

theorem unfold_present {tree : Tree} {term : Option Term} (present : tree.root.isPresent)
    (unfolded : tree.unfold = .ok term) : ∃ given, term = some given := by
  rw [unfold, if_neg (by simp [isAbsent, present])] at unfolded
  obtain ⟨given, _, same⟩ := map_ok_iff.1 unfolded
  exact ⟨given, same.symm⟩

structure ReportsFirst (left right : Tree) (report : Comparison.Report)
    (lefts rights : Array NodeId) : Prop where
  compared : left.compare right = .ok report
  leftListed : left.listing = .ok lefts
  rightListed : right.listing = .ok rights
  /-- Trees that are alike up to the end of the shorter listing are equal. -/
  equal : (∀ position, left.forest.AlikeAt right.forest lefts rights position) →
    report.result = .ok ()
  /-- Otherwise the report is on the first position at which the nodes are not alike. -/
  first : ∀ (position : Nat) (leftId rightId : NodeId), lefts[position]? = some leftId →
    rights[position]? = some rightId → ¬left.forest.Alike right.forest leftId rightId →
    (∀ earlier < position, left.forest.AlikeAt right.forest lefts rights earlier) →
    ∃ mismatch, report.result = .error mismatch ∧
      left.forest.FirstDifference right.forest leftId rightId mismatch
  /-- Attributes are only ever compared of nodes of one kind. -/
  oneKind : ∀ leftId rightId,
    Comparison.headDifference ⟨left.forest, right.forest, rights⟩ leftId rightId = .ok none →
    ∃ leftKind rightKind, left.forest.arena.kind leftId = .ok leftKind ∧
      right.forest.arena.kind rightId = .ok rightKind ∧ leftKind.nodeKind = rightKind.nodeKind
  /-- So that a difference found there is never one in kind. -/
  attributesOnly : ∀ leftId rightId mismatch,
    Comparison.headDifference ⟨left.forest, right.forest, rights⟩ leftId rightId = .ok none →
    Comparison.attributeDifference ⟨left.forest, right.forest, rights⟩ leftId rightId =
      .ok (some mismatch) →
    ∃ first, mismatch = .attributes leftId rightId first

/-- Comparing two present well-formed trees gives a report, on the first position in pre-order at
which they differ and on the first difference there. -/
theorem compare_first_difference (reachable : workspace.Reachable)
    (leftHeld : workspace.tree? leftHandle leftRoot = some left)
    (rightHeld : workspace.tree? rightHandle rightRoot = some right)
    (leftPresent : left.root.isPresent) (rightPresent : right.root.isPresent)
    (leftWellFormed : left.WellFormed) (rightWellFormed : right.WellFormed) :
    ∃ report lefts rights, left.ReportsFirst right report lefts rights := by
  obtain ⟨lefts, leftTerm, leftReads, leftUnfolded, leftSpelled⟩ :=
    reads_of_validate leftWellFormed.valid leftWellFormed.typed
  obtain ⟨rights, rightTerm, rightReads, rightUnfolded, rightSpelled⟩ :=
    reads_of_validate rightWellFormed.valid rightWellFormed.typed
  obtain ⟨leftTerm, rfl⟩ := unfold_present leftPresent leftUnfolded
  obtain ⟨rightTerm, rfl⟩ := unfold_present rightPresent rightUnfolded
  obtain ⟨report, compared, exactly⟩ :=
    compare_of_reads leftWellFormed.valid rightWellFormed.valid leftReads rightReads
  have reported := exactly (reachable.compatible leftHeld rightHeld)
  have alikeAt := Forest.alike_at_iff leftReads.read rightReads.read
  refine ⟨report, _, _, compared, leftReads.listing, rightReads.listing, ?_, ?_, ?_, ?_⟩
  · intro alike
    rw [reported]
    apply Comparison.of_readings_agree (fun _ member => (leftReads.read _ member).fits)
      (fun _ member => (rightReads.read _ member).fits) leftSpelled rightSpelled
    exact fun position => (alikeAt position).1 (alike position)
  · intro position leftId rightId leftAt rightAt apart before
    rw [List.getElem?_toArray, List.getElem?_map, Option.map_eq_some_iff] at leftAt rightAt
    obtain ⟨leftReading, leftAt, rfl⟩ := leftAt
    obtain ⟨rightReading, rightAt, rfl⟩ := rightAt
    have leftRead := leftReads.read _ (List.mem_of_getElem? leftAt)
    have rightRead := rightReads.read _ (List.mem_of_getElem? rightAt)
    rw [Forest.alike_iff_match leftRead rightRead] at apart
    obtain ⟨mismatch, differ⟩ := Option.ne_none_iff_exists'.1 apart
    refine ⟨mismatch, ?_, Forest.first_difference_of_mismatch leftRead rightRead differ⟩
    rw [reported, Comparison.of_readings_first leftAt rightAt differ
      fun earlier sooner => (alikeAt earlier).1 (before earlier sooner)]
  · intro leftId rightId
    exact Comparison.head_difference_none
  · intro leftId rightId mismatch
    exact Comparison.attribute_difference_some

end Tree

/-- Two lambdas around constructions that set different second members, to different arguments. -/
def boundApart : Workspace :=
  Workspace.performAll {}
    [.newArena none, .build ⟨0⟩ (.parameter "x" .int), .build ⟨0⟩ (.int 1),
     .build ⟨0⟩ (.new (some ⟨4⟩) [⟨0⟩, ⟨1⟩] [⟨10⟩, ⟨11⟩] .int),
     .build ⟨0⟩ (.lambda ⟨2⟩ [⟨0⟩] .int),
     .newArena none, .build ⟨1⟩ (.int 2), .build ⟨1⟩ (.parameter "x" .int),
     .build ⟨1⟩ (.new (some ⟨4⟩) [⟨1⟩, ⟨0⟩] [⟨10⟩, ⟨12⟩] .int),
     .build ⟨1⟩ (.lambda ⟨2⟩ [⟨1⟩] .int)]

theorem bound_apart_held :
    ∃ left ∈ boundApart.tree? ⟨0⟩ ⟨3⟩, ∃ right ∈ boundApart.tree? ⟨1⟩ ⟨3⟩,
      left.root.isPresent ∧ right.root.isPresent ∧ left.WellFormed ∧ right.WellFormed ∧
        left.isEqual right = .ok false := by
  decide +kernel

theorem Tree.compare_first_difference_bound_apart :
    ∃ left right report lefts rights, boundApart.Reachable ∧
      boundApart.tree? ⟨0⟩ ⟨3⟩ = some left ∧ boundApart.tree? ⟨1⟩ ⟨3⟩ = some right ∧
      left.root.isPresent ∧ right.root.isPresent ∧ left.WellFormed ∧ right.WellFormed ∧
      left.isEqual right = .ok false ∧ left.ReportsFirst right report lefts rights := by
  have reachable : boundApart.Reachable := ⟨_, rfl⟩
  obtain ⟨left, leftHeld, right, rightHeld, leftPresent, rightPresent, leftWellFormed,
    rightWellFormed, differ⟩ := bound_apart_held
  obtain ⟨report, lefts, rights, reports⟩ := compare_first_difference reachable leftHeld
    rightHeld leftPresent rightPresent leftWellFormed rightWellFormed
  exact ⟨left, right, report, lefts, rights, reachable, leftHeld, rightHeld, leftPresent,
    rightPresent, leftWellFormed, rightWellFormed, differ, reports⟩

end ExprTree
