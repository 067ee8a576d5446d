import ExprTree.Proofs.Profile
import ExprTree.Proofs.Unfolding

/-!
Two nodes agree in all that is compared exactly if they have the same label and equally many
children: the attributes of a node are a listing of its content and of the length of its list, and
the length of the list is what the number of children leaves open.
-/

namespace ExprTree

set_option autoImplicit false

def Literal.meaning : Literal → Meaning
  | .null => .plain (.literal .null)
  | .bool value => .plain (.literal (.bool value))
  | .int value => .plain (.literal (.int value))
  | .float bits => .plain (.literal (.float bits))
  | .char value => .plain (.literal (.char value))
  | .text value => .text value

namespace Content

def arityTraits (arity : Option Nat) : List (Attribute × Meaning) :=
  arity.toList.map fun length => (.arity, .plain (.count length))

def traits (arity : Option Nat) : Content → List (Attribute × Meaning)
  | .literal value => [(.value, value.meaning)]
  | .member id targeted =>
      [(.member, .plain (.member id)), (.target, .plain (.flag targeted))]
  | .method id targeted =>
      [(.method, .plain (.method id)), (.target, .plain (.flag targeted))] ++ arityTraits arity
  | .parameter name => [(.parameterName, .name name)]
  | .tested type => [(.typeOperand, .plain (.type type))]
  | .operator info =>
      [(.operatorMethod, .plain (.operatorMethod info.method)),
       (.lifted, .plain (.flag info.lifted)), (.liftedToNull, .plain (.flag info.liftedToNull))]
  | .creation ctor bound =>
      (.ctor, .plain (.ctor ctor)) :: arityTraits arity ++
        (.boundMemberCount, .plain (.count bound.length)) ::
          bound.mapIdx fun index member => (.boundMember index, .plain (.member member))
  | .nothing => arityTraits arity

def targets : Content → Nat
  | .member _ targeted | .method _ targeted => if targeted then 1 else 0
  | _ => 0

inductive Suits : NodeKind → Content → Option Nat → Prop where
  | constant (value : Literal) : Suits .constant (.literal value) none
  | memberAccess (id : MemberId) (targeted : Bool) : Suits .memberAccess (.member id targeted) none
  | methodCall (id : MethodId) (targeted : Bool) (arity : Nat) :
      Suits .methodCall (.method id targeted) (some arity)
  | parameter (name : String) : Suits .parameter (.parameter name) none
  | typeIs (type : TypeId) : Suits .typeIs (.tested type) none
  | binary (op : BinaryOp) (info : OperatorInfo) : Suits (.binary op) (.operator info) none
  | unary (op : UnaryOp) (info : OperatorInfo) : Suits (.unary op) (.operator info) none
  | new (ctor : Option CtorId) (bound : List MemberId) (arity : Nat) :
      Suits .new (.creation ctor bound) (some arity)
  | conditional : Suits .conditional .nothing none
  | invoke (arity : Nat) : Suits .invoke .nothing (some arity)
  | lambda (arity : Nat) : Suits .lambda .nothing (some arity)
  | newArrayInit (arity : Nat) : Suits .newArrayInit .nothing (some arity)
  | newArrayBounds (arity : Nat) : Suits .newArrayBounds .nothing (some arity)

end Content

def NodeKind.operandCount : NodeKind → Nat
  | .typeIs | .unary _ | .invoke | .lambda => 1
  | .binary _ => 2
  | .conditional => 3
  | _ => 0

def NodeKind.hasList : NodeKind → Bool
  | .methodCall | .new | .invoke | .lambda | .newArrayInit | .newArrayBounds => true
  | _ => false

def ExprKind.arity? (kind : ExprKind) : Option Nat := kind.list?.map Span.size

/-! ### Attributes in terms of content -/

theorem first_apart_self (traits : List (Attribute × Meaning)) :
    firstApart traits traits = none := by
  induction traits with
  | nil => rfl
  | cons trait traits induction => simp [firstApart, induction]

theorem first_apart_cons_none {key other : Attribute} {left right : Meaning}
    {lefts rights : List (Attribute × Meaning)} :
    firstApart ((key, left) :: lefts) ((other, right) :: rights) = none ↔
      left = right ∧ firstApart lefts rights = none := by
  by_cases same : left = right <;> simp [firstApart, same]

theorem first_apart_none {lefts rights : List (Attribute × Meaning)}
    (keys : lefts.map Prod.fst = rights.map Prod.fst) (same : firstApart lefts rights = none) :
    lefts = rights := by
  induction lefts generalizing rights with
  | nil => simpa using keys
  | cons left lefts induction =>
      cases rights with
      | nil => simp at keys
      | cons right rights =>
          simp only [List.map_cons, List.cons.injEq] at keys
          obtain ⟨meanings, later⟩ := first_apart_cons_none.1 same
          rw [Prod.ext keys.1 meanings, induction keys.2 later]

theorem bound_traits_inj {lefts rights : List MemberId} (length : lefts.length = rights.length)
    (same : firstApart
      (lefts.mapIdx fun index member => (.boundMember index, .plain (.member member)))
      (rights.mapIdx fun index member => (.boundMember index, .plain (.member member))) = none) :
    lefts = rights := by
  have equal := first_apart_none (List.ext_getElem (by simp [length]) (by simp)) same
  apply List.ext_getElem length
  intro index leftInside rightInside
  have entry := congrArg (fun traits => traits[index]?) equal
  simpa [leftInside, rightInside] using entry

theorem Literal.meaning_inj {left right : Literal} (same : left.meaning = right.meaning) :
    left = right := by
  cases left <;> cases right <;> simp_all [Literal.meaning]

namespace Content

theorem Suits.traits_inj {kind : NodeKind} {left right : Content} {leftArity rightArity : Option Nat}
    (leftSuits : Suits kind left leftArity) (rightSuits : Suits kind right rightArity)
    (same : firstApart (left.traits leftArity) (right.traits rightArity) = none) :
    left = right ∧ leftArity = rightArity := by
  cases leftSuits with
  | constant value =>
      cases rightSuits with
      | constant other =>
          have literals := (first_apart_cons_none.1 same).1
          exact ⟨by rw [Literal.meaning_inj literals], rfl⟩
  | new ctor bound arity =>
      cases rightSuits with
      | new other others otherArity =>
          simp only [traits, arityTraits, Option.toList_some, List.map_cons, List.map_nil,
            List.cons_append, List.nil_append, first_apart_cons_none, Meaning.plain.injEq,
            AttributeValue.ctor.injEq, AttributeValue.count.injEq] at same
          -- The count comes before the members, so the two lists of members have one length.
          obtain ⟨ctors, arities, counts, members⟩ := same
          rw [ctors, arities, bound_traits_inj counts members]
          exact ⟨rfl, rfl⟩
  | binary op info | unary op info =>
      obtain ⟨method, lifted, liftedToNull⟩ := info
      cases rightSuits
      simp_all [traits, first_apart_cons_none]
  | _ =>
      cases rightSuits
      simp_all [traits, arityTraits, first_apart_cons_none]

end Content

namespace Label

def arity (label : Label) (count : Nat) : Option Nat :=
  if label.kind.hasList then some (count - (label.content.targets + label.kind.operandCount))
  else none

def profile (label : Label) (count : Nat) : Profile :=
  ⟨label.kind, label.type, label.content.traits (label.arity count)⟩

/-- The content belongs to the kind, and there are as many children as both of them say. -/
structure Fits (label : Label) (count : Nat) : Prop where
  suits : label.content.Suits label.kind (label.arity count)
  counted : count =
    label.content.targets + label.kind.operandCount + (label.arity count).getD 0

theorem mismatch_none_iff {left right : Label} {leftCount rightCount : Nat}
    (leftFits : left.Fits leftCount) (rightFits : right.Fits rightCount) (leftId rightId : NodeId) :
    (left.profile leftCount).mismatch? (right.profile rightCount) leftId rightId = none ↔
      left = right ∧ leftCount = rightCount := by
  constructor
  · intro agree
    have kinds : left.kind = right.kind := by
      by_contra different
      simp [Profile.mismatch?, profile, different] at agree
    have types : left.type = right.type := by
      by_contra different
      simp [Profile.mismatch?, profile, kinds, different] at agree
    have traits : firstApart (left.profile leftCount).traits (right.profile rightCount).traits =
        none := by
      simpa [Profile.mismatch?, profile, kinds, types] using agree
    have rightSuits := rightFits.suits
    rw [← kinds] at rightSuits
    obtain ⟨contents, arities⟩ := leftFits.suits.traits_inj rightSuits traits
    have counts : leftCount = rightCount := by
      rw [leftFits.counted, rightFits.counted, kinds, contents, arities]
    obtain ⟨kind, type, content⟩ := left
    obtain ⟨otherKind, otherType, otherContent⟩ := right
    rw [mk.injEq]
    exact ⟨⟨kinds, types, contents⟩, counts⟩
  · intro same
    rw [same.1, same.2]
    simp [Profile.mismatch?, first_apart_self]

end Label

namespace Forest

variable {forest : Forest} {id : NodeId} {kind : ExprKind} {content : Content}

theorem suits_of_content (read : forest.content kind = .ok content) :
    content.Suits kind.nodeKind kind.arity? := by
  cases kind with
  | constant value | parameter name | new ctor args members =>
      obtain ⟨_, _, rfl⟩ := map_ok_iff.1 read
      constructor
  | _ =>
      cases read
      constructor

theorem literal_meaning {value : ConstValue} {literal : Literal}
    (read : forest.literal value = .ok literal) :
    forest.meaning (.literal value) = .ok literal.meaning := by
  cases value with
  | text name =>
      obtain ⟨text, found, rfl⟩ := map_ok_iff.1 read
      exact map_ok_iff.2 ⟨text, found, rfl⟩
  | _ =>
      cases read
      rfl

theorem traits_plain {attributes : List (Attribute × AttributeValue)}
    (each : ∀ item ∈ attributes, forest.meaning item.2 = .ok (.plain item.2)) :
    forest.traits attributes = .ok (attributes.map fun item => (item.1, .plain item.2)) :=
  map_m_eq_map fun item member => map_ok_iff.2 ⟨_, each item member, rfl⟩

theorem traits_single {key : Attribute} {value : AttributeValue} {meaning : Meaning}
    (resolved : forest.meaning value = .ok meaning) :
    forest.traits [(key, value)] = .ok [(key, meaning)] :=
  map_m_ok_iff.2 (.cons (map_ok_iff.2 ⟨meaning, resolved, rfl⟩) .nil)

theorem content_traits (read : forest.content kind = .ok content) :
    ∃ attributes, forest.arena.attributes kind = .ok attributes ∧
      forest.traits attributes = .ok (content.traits kind.arity?) := by
  cases kind with
  | constant value =>
      obtain ⟨literal, resolved, rfl⟩ := map_ok_iff.1 read
      exact ⟨_, rfl, traits_single (literal_meaning resolved)⟩
  | parameter name =>
      obtain ⟨text, found, rfl⟩ := map_ok_iff.1 read
      exact ⟨_, rfl, traits_single (map_ok_iff.2 ⟨text, found, rfl⟩)⟩
  | new ctor args members =>
      obtain ⟨bound, listed, rfl⟩ := map_ok_iff.1 read
      refine ⟨_, map_ok_iff.2 ⟨_, bind_ok_iff.2 ⟨bound, listed, rfl⟩, rfl⟩, ?_⟩
      have members :
          (bound.mapIdx fun index member => (Attribute.boundMember index,
              AttributeValue.member member)).map (fun item => (item.1, Meaning.plain item.2)) =
            bound.mapIdx fun index member => (.boundMember index, .plain (.member member)) :=
        List.ext_getElem (by simp) (by simp)
      rw [traits_plain]
      · simp [ExprKind.ownAttributes, Content.traits, Content.arityTraits, ExprKind.arity?,
          ExprKind.list?, members]
      · simp only [ExprKind.ownAttributes, List.mem_append, List.mem_cons, List.not_mem_nil,
          or_false, List.mem_mapIdx]
        intro item member
        rcases member with (rfl | rfl) | rfl | ⟨index, inside, rfl⟩ <;> rfl
  | _ =>
      cases read
      refine ⟨_, rfl, ?_⟩
      rw [traits_plain (by simp [meaning, ExprKind.ownAttributes, OperatorInfo.attributes])]
      rfl

theorem text_of_known {name : Name} (known : name.index < forest.names.size) :
    ∃ text, forest.text name = .ok text := by
  refine ⟨forest.names.strings[name.index], ?_⟩
  rw [text, Interner.lookup?, Array.getElem?_eq_getElem known]

theorem content_of_sound (sound : forest.SoundAs id kind) :
    ∃ content, forest.content kind = .ok content := by
  cases kind with
  | constant value =>
      cases value with
      | text name =>
          obtain ⟨text, found⟩ := text_of_known (sound.namesKnown name (.inr rfl))
          exact ⟨_, map_ok_iff.2 ⟨_, map_ok_iff.2 ⟨text, found, rfl⟩, rfl⟩⟩
      | _ => exact ⟨_, rfl⟩
  | parameter name =>
      obtain ⟨text, found⟩ := text_of_known (sound.namesKnown name (.inl rfl))
      exact ⟨_, map_ok_iff.2 ⟨text, found, rfl⟩⟩
  | new ctor args members =>
      have inside := sound.membersInside ctor args members rfl
      exact ⟨_, map_ok_iff.2 ⟨_, Arena.member_list_eq inside, rfl⟩⟩
  | _ => exact ⟨_, rfl⟩

theorem offspring_length (sound : forest.SoundAs id kind) (read : forest.content kind = .ok content) :
    (forest.arena.offspring kind).length =
      content.targets + kind.nodeKind.operandCount + kind.arity?.getD 0 := by
  have listed : (kind.list?.toList.flatMap forest.arena.entries).length =
      kind.arity?.getD 0 := by
    cases list : kind.list? with
    | none => simp [ExprKind.arity?, list]
    | some range =>
        have inside := sound.listInside range (by simp [list])
        simp [ExprKind.arity?, list, Arena.entries, ListTable.length_run inside]
  have targeted : (kind.target?.toList.filter NodeId.isPresent).length = content.targets := by
    cases kind with
    | memberAccess target member | methodCall target method args =>
        cases read
        by_cases present : target.isPresent <;>
          simp [ExprKind.target?, Content.targets, present]
    | constant value | parameter name | new ctor args members =>
        obtain ⟨_, _, rfl⟩ := map_ok_iff.1 read
        rfl
    | _ =>
        cases read
        rfl
  have operands : kind.operands.length = kind.nodeKind.operandCount := by
    cases kind <;> rfl
  rw [sound.listable.offspring_eq, List.length_append, List.length_append, listed, targeted, operands]

/-- The length of a sound node's list can be told from its label and the number of its children. -/
theorem arity_of_sound (sound : forest.SoundAs id kind) (read : forest.content kind = .ok content)
    (type : TypeId) :
    Label.arity ⟨kind.nodeKind, type, content⟩ (forest.arena.offspring kind).length =
      kind.arity? := by
  rw [Label.arity, offspring_length sound read]
  cases kind <;> simp [NodeKind.hasList, ExprKind.nodeKind, ExprKind.arity?, ExprKind.list?]

/-- A node that can be read: it is sound, and has a type. -/
def Readable (forest : Forest) (id : NodeId) : Prop :=
  forest.Sound id ∧ id.index < forest.arena.types.size

theorem Readable.entry (readable : forest.Readable id) :
    ∃ label count, forest.label id = .ok label ∧ forest.entry id = .ok (label, count) ∧
      label.Fits count ∧ forest.profile id = .ok (label.profile count) := by
  obtain ⟨⟨kind, found, sound⟩, typed⟩ := readable
  obtain ⟨content, read⟩ := content_of_sound sound
  obtain ⟨attributes, listed, resolved⟩ := content_traits read
  have counted := offspring_length sound read
  have kindRead := Arena.kind_ok_iff.2 found
  have typeRead := Arena.type_typed typed
  let label : Label := ⟨kind.nodeKind, forest.arena.types[id.index], content⟩
  have labelled : forest.label id = .ok label :=
    bind_ok_iff.2 ⟨kind, kindRead, bind_ok_iff.2 ⟨_, typeRead, bind_ok_iff.2 ⟨_, read, rfl⟩⟩⟩
  have arity : label.arity (forest.arena.offspring kind).length = kind.arity? :=
    arity_of_sound sound read _
  refine ⟨label, (forest.arena.offspring kind).length, labelled, ?_, ⟨?_, ?_⟩, ?_⟩
  · exact bind_ok_iff.2 ⟨_, labelled, bind_ok_iff.2 ⟨kind, kindRead, rfl⟩⟩
  · rw [arity]
    exact suits_of_content read
  · rw [arity]
    exact counted
  · rw [Label.profile, arity]
    exact profile_ok_iff.2 ⟨kind, _, attributes, _, found, typeRead, listed, resolved, rfl⟩

end Forest

end ExprTree
