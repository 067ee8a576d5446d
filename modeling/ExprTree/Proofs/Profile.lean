import ExprTree.Comparison
import ExprTree.Fingerprint
import ExprTree.Proofs.NodeChecks

/-!
What comparing and hashing read of one node: its kind, its type and its attributes, with strings in
place of names. Two nodes compare as their profiles do, whichever way names are compared, and the
writes of a node are those of its profile.
-/

namespace ExprTree

set_option autoImplicit false

/-- The value of an attribute, a name or a text literal standing for its string. -/
inductive Meaning where
  | name (text : String)
  | text (text : String)
  | plain (value : AttributeValue)
deriving DecidableEq

structure Profile where
  kind : NodeKind
  type : TypeId
  traits : List (Attribute × Meaning)
deriving DecidableEq

namespace Forest

def meaning (forest : Forest) : AttributeValue → Except Fault Meaning
  | .name name => (forest.text name).map .name
  | .literal (.text name) => (forest.text name).map .text
  | value => .ok (.plain value)

def traits (forest : Forest) (attributes : List (Attribute × AttributeValue)) :
    Except Fault (List (Attribute × Meaning)) :=
  attributes.mapM fun (key, value) => (forest.meaning value).map (key, ·)

def profile (forest : Forest) (id : NodeId) : Except Fault Profile := do
  let kind ← forest.arena.kind id
  let type ← forest.arena.type id
  let attributes ← forest.arena.attributes kind
  return ⟨kind.nodeKind, type, ← forest.traits attributes⟩

/-- Names of the two forests that are comparable as numbers are equal if their strings are. -/
def Compatible (left right : Forest) : Prop :=
  left.sharesNames right → ∀ leftName rightName leftText rightText,
    left.text leftName = .ok leftText → right.text rightName = .ok rightText →
      (leftName = rightName ↔ leftText = rightText)

theorem text_ok_iff {forest : Forest} {name : Name} {text : String} :
    forest.text name = .ok text ↔ forest.names.lookup? name = some text := by
  unfold Forest.text
  cases forest.names.lookup? name <;> simp

theorem profile_ok_iff {forest : Forest} {id : NodeId} {profile : Profile} :
    forest.profile id = .ok profile ↔
      ∃ kind type attributes traits, forest.arena.kinds[id.index]? = some kind ∧
        forest.arena.type id = .ok type ∧ forest.arena.attributes kind = .ok attributes ∧
        forest.traits attributes = .ok traits ∧ profile = ⟨kind.nodeKind, type, traits⟩ := by
  simp only [Forest.profile, bind_ok_iff, Arena.kind_ok_iff]
  constructor
  · intro ⟨kind, found, type, typed, attributes, listed, traits, resolved, same⟩
    cases same
    exact ⟨kind, type, attributes, traits, found, typed, listed, resolved, rfl⟩
  · intro ⟨kind, type, attributes, traits, found, typed, listed, resolved, same⟩
    exact ⟨kind, found, type, typed, attributes, listed, traits, resolved, by rw [same]; rfl⟩

end Forest

/-! ### Writes -/

instance : Digest AttributeValue where
  writes
    | .literal value => writes value
    | .name name => writes name
    | .member id => writes id
    | .method id => writes id
    | .operatorMethod id => writes id
    | .ctor id => writes id
    | .type type => writes type
    | .flag value => writes value
    | .count value => [.count value]

instance : Digest Meaning where
  writes
    | .name text => writes text
    | .text text => .tag (ConstValue.text .empty).ctorIdx :: writes text
    | .plain value => writes value

instance : Digest Profile where
  writes profile := writes profile.kind ++ writes profile.type ++
    (profile.traits.map fun trait => writes trait.2).flatten

namespace Meaning

@[simp]
theorem writes_name (text : String) : writes (name text) = writes text := rfl

@[simp]
theorem writes_member (id : MemberId) : writes (plain (.member id)) = writes id := rfl

@[simp]
theorem writes_method (id : MethodId) : writes (plain (.method id)) = writes id := rfl

@[simp]
theorem writes_operator_method (id : Option MethodId) :
    writes (plain (.operatorMethod id)) = writes id := rfl

@[simp]
theorem writes_ctor (id : Option CtorId) : writes (plain (.ctor id)) = writes id := rfl

@[simp]
theorem writes_type (type : TypeId) : writes (plain (.type type)) = writes type := rfl

@[simp]
theorem writes_flag (value : Bool) : writes (plain (.flag value)) = writes value := rfl

@[simp]
theorem writes_count (value : Nat) : writes (plain (.count value)) = [.count value] := rfl

end Meaning

namespace Forest

theorem value_writes_eq (forest : Forest) (value : AttributeValue) :
    forest.valueWrites value = (forest.meaning value).map writes := by
  cases value with
  | literal value =>
      cases value with
      | text name =>
          simp only [valueWrites, meaning]
          cases forest.text name <;> rfl
      | _ => rfl
  | name name =>
      simp only [valueWrites, meaning]
      cases forest.text name <;> rfl
  | _ => rfl

theorem trait_writes_eq (forest : Forest) (attributes : List (Attribute × AttributeValue)) :
    (attributes.mapM fun (_, value) => forest.valueWrites value) =
      (forest.traits attributes).map (List.map fun trait => writes trait.2) := by
  rw [traits, ← map_m_map]
  congr 1
  funext ⟨key, value⟩
  simp only [value_writes_eq]
  cases forest.meaning value <;> rfl

theorem node_writes_eq (forest : Forest) (id : NodeId) :
    forest.nodeWrites id = (forest.profile id).map writes := by
  simp only [nodeWrites, profile, trait_writes_eq, bind, Except.bind]
  cases forest.arena.kind id with
  | error fault => rfl
  | ok kind =>
      simp only
      cases forest.arena.type id with
      | error fault => rfl
      | ok type =>
          simp only
          cases forest.arena.attributes kind with
          | error fault => rfl
          | ok attributes =>
              simp only
              cases forest.traits attributes <;> rfl

end Forest

/-! ### Differences -/

def firstApart : List (Attribute × Meaning) → List (Attribute × Meaning) → Option Attribute
  | (key, left) :: lefts, (_, right) :: rights =>
      if left = right then firstApart lefts rights else some key
  | _, _ => none

def Profile.mismatch? (left right : Profile) (leftId rightId : NodeId) : Option Mismatch :=
  if left.kind ≠ right.kind then some (.kind leftId rightId left.kind right.kind)
  else if left.type ≠ right.type then some (.type leftId rightId left.type right.type)
  else (firstApart left.traits right.traits).map (.attributes leftId rightId)

theorem Profile.mismatch_some {left right : Profile} {leftId rightId : NodeId} {mismatch : Mismatch}
    (apart : left.mismatch? right leftId rightId = some mismatch) :
    (left.kind ≠ right.kind ∧ mismatch = .kind leftId rightId left.kind right.kind) ∨
    (left.kind = right.kind ∧ left.type ≠ right.type ∧
      mismatch = .type leftId rightId left.type right.type) ∨
    (left.kind = right.kind ∧ left.type = right.type ∧
      ∃ key, firstApart left.traits right.traits = some key ∧
        mismatch = .attributes leftId rightId key) := by
  unfold mismatch? at apart
  by_cases kinds : left.kind = right.kind
  · by_cases types : left.type = right.type
    · rw [if_neg (not_not_intro kinds), if_neg (not_not_intro types)] at apart
      obtain ⟨key, first, same⟩ := Option.map_eq_some_iff.1 apart
      exact .inr (.inr ⟨kinds, types, key, first, same.symm⟩)
    · rw [if_neg (not_not_intro kinds), if_pos types, Option.some.injEq] at apart
      exact .inr (.inl ⟨kinds, types, apart.symm⟩)
  · rw [if_pos kinds, Option.some.injEq] at apart
    exact .inl ⟨kinds, apart.symm⟩

/-- How many candidates count as matched when the one at a position does not match. -/
def Mismatch.matchedAt (mismatch : Mismatch) (position : Nat) : Nat :=
  match mismatch with
  | .attributes .. => position + 1
  | _ => position

namespace Comparison

variable {comparison : Comparison}

/-- Names that both have strings are told apart by their strings, unless the two forests share their
names without being compatible. -/
theorem same_name_spec {left right : Name} {leftText rightText : String}
    (leftFound : comparison.left.text left = .ok leftText)
    (rightFound : comparison.right.text right = .ok rightText) :
    ∃ same, comparison.sameName left right = .ok same ∧
      (comparison.left.Compatible comparison.right → same = decide (leftText = rightText)) := by
  unfold sameName
  split
  case isTrue shared =>
    refine ⟨left == right, rfl, fun compatible => ?_⟩
    have agree := compatible shared left right leftText rightText leftFound rightFound
    rw [beq_eq_decide, decide_eq_decide.2 agree]
  case isFalse =>
    refine ⟨leftText == rightText, ?_, fun _ => beq_eq_decide _ _⟩
    rw [leftFound, rightFound]
    rfl

theorem meaning_cases {forest : Forest} {value : AttributeValue} {meaning : Meaning}
    (resolved : forest.meaning value = .ok meaning) :
    (∃ name text, value = .name name ∧ forest.text name = .ok text ∧ meaning = .name text) ∨
    (∃ name text, value = .literal (.text name) ∧ forest.text name = .ok text ∧
      meaning = .text text) ∨
    ((∀ name, value ≠ .name name) ∧ (∀ name, value ≠ .literal (.text name)) ∧
      meaning = .plain value) := by
  unfold Forest.meaning at resolved
  split at resolved
  case h_1 name =>
    obtain ⟨text, found, same⟩ := map_ok_iff.1 resolved
    exact .inl ⟨name, text, rfl, found, same.symm⟩
  case h_2 name =>
    obtain ⟨text, found, same⟩ := map_ok_iff.1 resolved
    exact .inr (.inl ⟨name, text, rfl, found, same.symm⟩)
  case h_3 notName notText =>
    cases resolved
    exact .inr (.inr ⟨notName, notText, rfl⟩)

theorem same_value_spec {left right : AttributeValue} {leftMeaning rightMeaning : Meaning}
    (leftResolved : comparison.left.meaning left = .ok leftMeaning)
    (rightResolved : comparison.right.meaning right = .ok rightMeaning) :
    ∃ same, comparison.sameValue left right = .ok same ∧
      (comparison.left.Compatible comparison.right →
        same = decide (leftMeaning = rightMeaning)) := by
  rcases meaning_cases leftResolved with
    ⟨leftName, leftText, rfl, leftFound, rfl⟩ | ⟨leftName, leftText, rfl, leftFound, rfl⟩ |
      ⟨leftNotName, leftNotText, rfl⟩ <;>
  rcases meaning_cases rightResolved with
    ⟨rightName, rightText, rfl, rightFound, rfl⟩ | ⟨rightName, rightText, rfl, rightFound, rfl⟩ |
      ⟨rightNotName, rightNotText, rfl⟩
  case inl.inl => simpa [sameValue] using same_name_spec leftFound rightFound
  case inr.inl.inr.inl => simpa [sameValue] using same_name_spec leftFound rightFound
  case inr.inr.inr.inr =>
    refine ⟨left == right, ?_, fun _ => by simp [beq_eq_decide]⟩
    unfold sameValue
    split <;> simp_all
  -- A name, a text and any other value are never equal to one another.
  all_goals
    refine ⟨false, ?_, by simp⟩
    unfold sameValue
    split <;> grind

theorem first_difference_spec {lefts rights : List (Attribute × AttributeValue)}
    {leftTraits rightTraits : List (Attribute × Meaning)}
    (leftResolved : comparison.left.traits lefts = .ok leftTraits)
    (rightResolved : comparison.right.traits rights = .ok rightTraits) :
    ∃ difference, comparison.firstDifference lefts rights = .ok difference ∧
      (comparison.left.Compatible comparison.right →
        difference = firstApart leftTraits rightTraits) := by
  have leftEach := map_m_ok_iff.1 leftResolved
  have rightEach := map_m_ok_iff.1 rightResolved
  clear leftResolved rightResolved
  induction leftEach generalizing rights rightTraits with
  | nil => exact ⟨none, rfl, fun _ => rfl⟩
  | @cons leftAttribute leftTrait lefts leftTraits leftFirst leftLater induction =>
      cases rightEach with
      | nil => exact ⟨none, rfl, fun _ => rfl⟩
      | @cons rightAttribute rightTrait rights rightTraits rightFirst rightLater =>
          obtain ⟨key, left⟩ := leftAttribute
          obtain ⟨other, right⟩ := rightAttribute
          obtain ⟨leftMeaning, leftFound, rfl⟩ := map_ok_iff.1 leftFirst
          obtain ⟨rightMeaning, rightFound, rfl⟩ := map_ok_iff.1 rightFirst
          obtain ⟨same, answered, exactly⟩ := same_value_spec leftFound rightFound
          obtain ⟨later, continued, exactlyLater⟩ := induction rightLater
          refine ⟨if same then later else some key, ?_, fun compatible => ?_⟩
          · rw [firstDifference, answered]
            cases same
            · rfl
            · exact continued
          · rw [firstApart, exactly compatible, exactlyLater compatible]
            simp only [decide_eq_true_eq]

theorem first_difference_append
    {lefts rights leftRest rightRest : List (Attribute × AttributeValue)}
    (lengths : lefts.length = rights.length) :
    comparison.firstDifference (lefts ++ leftRest) (rights ++ rightRest) =
      (do
        match ← comparison.firstDifference lefts rights with
        | some first => return some first
        | none => comparison.firstDifference leftRest rightRest) := by
  induction lefts generalizing rights with
  | nil =>
      rw [List.eq_nil_of_length_eq_zero lengths.symm]
      rfl
  | cons left lefts induction =>
      cases rights with
      | nil => cases lengths
      | cons right rights =>
          have later := induction (Nat.succ.inj lengths)
          rw [List.cons_append, List.cons_append, firstDifference, firstDifference]
          -- Only two equal first values lead on to the rest, on both sides.
          cases comparison.sameValue left.2 right.2 with
          | error fault => rfl
          | ok same =>
              cases same
              · rfl
              · exact later

variable {left right : NodeId} {leftKind rightKind : ExprKind} {leftProfile rightProfile : Profile}

theorem own_attributes_length (kinds : leftKind.nodeKind = rightKind.nodeKind) :
    leftKind.ownAttributes.length = rightKind.ownAttributes.length := by
  cases leftKind <;> cases rightKind <;> cases kinds <;> rfl

/-- For nodes of one kind it makes no difference that the bound members are looked up later. -/
theorem attribute_apart_eq {lefts rights : List (Attribute × AttributeValue)}
    (kinds : leftKind.nodeKind = rightKind.nodeKind)
    (leftListed : comparison.left.arena.attributes leftKind = .ok lefts)
    (rightListed : comparison.right.arena.attributes rightKind = .ok rights) :
    comparison.attributeApart leftKind rightKind = comparison.firstDifference lefts rights := by
  obtain ⟨leftBound, leftFound, rfl⟩ := map_ok_iff.1 leftListed
  obtain ⟨rightBound, rightFound, rfl⟩ := map_ok_iff.1 rightListed
  rw [first_difference_append (own_attributes_length kinds), attributeApart, leftFound, rightFound]
  rfl

/-- Nodes of one kind never differ in kind when their attributes are compared. -/
theorem attribute_difference_eq (leftIs : comparison.left.arena.kind left = .ok leftKind)
    (rightIs : comparison.right.arena.kind right = .ok rightKind)
    (kinds : leftKind.nodeKind = rightKind.nodeKind) :
    comparison.attributeDifference left right =
      (comparison.attributeApart leftKind rightKind).map (Option.map (.attributes left right)) := by
  rw [attributeDifference, leftIs, rightIs]
  cases leftKind <;> cases rightKind <;> cases kinds
  all_goals rfl

theorem attribute_difference_spec (kinds : leftProfile.kind = rightProfile.kind)
    (leftFound : comparison.left.profile left = .ok leftProfile)
    (rightFound : comparison.right.profile right = .ok rightProfile) :
    ∃ difference, comparison.attributeDifference left right =
        .ok (difference.map (.attributes left right)) ∧
      (comparison.left.Compatible comparison.right →
        difference = firstApart leftProfile.traits rightProfile.traits) := by
  obtain ⟨leftKind, _, lefts, _, leftIs, _, leftListed, leftResolved, rfl⟩ :=
    Forest.profile_ok_iff.1 leftFound
  obtain ⟨rightKind, _, rights, _, rightIs, _, rightListed, rightResolved, rfl⟩ :=
    Forest.profile_ok_iff.1 rightFound
  obtain ⟨difference, answered, exactly⟩ := first_difference_spec leftResolved rightResolved
  refine ⟨difference, ?_, exactly⟩
  rw [attribute_difference_eq (Arena.kind_ok_iff.2 leftIs) (Arena.kind_ok_iff.2 rightIs) kinds,
    attribute_apart_eq kinds leftListed rightListed, answered]
  rfl

/-- Matching a node with the candidate at a position gives an answer, which depends on nothing but
the two profiles. -/
theorem step_spec {position : Nat} (candidate : comparison.candidates[position]? = some right)
    (leftFound : comparison.left.profile left = .ok leftProfile)
    (rightFound : comparison.right.profile right = .ok rightProfile) :
    ∃ answer : Option Mismatch,
      (comparison.step left position =
        match answer with
        | none => .ok (position + 1)
        | some mismatch => .error (.differ mismatch (mismatch.matchedAt position))) ∧
      (comparison.left.Compatible comparison.right →
        answer = leftProfile.mismatch? rightProfile left right) := by
  obtain ⟨leftKind, leftType, _, leftTraits, leftIs, leftTyped, _, _, rfl⟩ :=
    Forest.profile_ok_iff.1 leftFound
  obtain ⟨rightKind, rightType, _, rightTraits, rightIs, rightTyped, _, _, rfl⟩ :=
    Forest.profile_ok_iff.1 rightFound
  simp only [step, candidate, headDifference, Arena.kind_ok_iff.2 leftIs,
    Arena.kind_ok_iff.2 rightIs, leftTyped, rightTyped, bind, Except.bind, pure, Except.pure,
    Profile.mismatch?, bne_iff_ne, ne_eq]
  by_cases kinds : leftKind.nodeKind = rightKind.nodeKind
  · by_cases types : leftType = rightType
    · obtain ⟨difference, answered, exactly⟩ :=
        attribute_difference_spec kinds leftFound rightFound
      refine ⟨difference.map (.attributes left right), ?_, fun compatible => ?_⟩
      · cases difference <;> simp [kinds, types, answered, Mismatch.matchedAt]
      · simp [kinds, types, exactly compatible]
    · refine ⟨some (.type left right leftType rightType), ?_, fun _ => by simp [kinds, types]⟩
      simp [kinds, types, Mismatch.matchedAt]
  · refine ⟨some (.kind left right leftKind.nodeKind rightKind.nodeKind), ?_,
      fun _ => by simp [kinds]⟩
    simp [kinds, Mismatch.matchedAt]

end Comparison

end ExprTree
