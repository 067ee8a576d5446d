import ExprTree.Proofs.Equality
import ExprTree.Proofs.Reading

/-!
The writes of a tree leave nothing open: no tree's writes go on as the writes of another tree. So
trees that differ have different writes, and can have one hash only by accident of the fold.

The writes of a value mark where they end, though no end is written: the kind of a node says which
attributes follow, each of a known width or with its length or a final byte, and the attributes
say how many children come next. What is left is a spelling, which no other tree continues.
-/

namespace ExprTree

set_option autoImplicit false

/-- How a sequence of writes starts determines the value that they are of, and where its writes
end. -/
class Unambiguous (α : Type) [Digest α] : Prop where
  split : ∀ {left right : α} {leftRest rightRest : List Write},
    writes left ++ leftRest = writes right ++ rightRest → left = right ∧ leftRest = rightRest

namespace Unambiguous

variable {α β : Type} [Digest α] [Digest β]

@[simp]
theorem writes_append_iff [Unambiguous α] {left right : α} {leftRest rightRest : List Write} :
    writes left ++ leftRest = writes right ++ rightRest ↔
      left = right ∧ leftRest = rightRest := by
  constructor
  · exact split
  · intro same
    rw [same.1, same.2]

theorem of_write (write : α → Write) (single : ∀ value, writes value = [write value])
    (injective : Function.Injective write) : Unambiguous α where
  split := by
    intro left right leftRest rightRest same
    simp only [single, List.cons_append, List.nil_append, List.cons.injEq] at same
    exact ⟨injective same.1, same.2⟩

theorem of_part [Unambiguous β] (part : α → β)
    (written : ∀ value, writes value = writes (part value))
    (injective : Function.Injective part) : Unambiguous α where
  split := by
    intro left right leftRest rightRest same
    rw [written, written, writes_append_iff] at same
    exact ⟨injective same.1, same.2⟩

end Unambiguous

instance : Unambiguous Bool :=
  .of_write (fun value => .byte (if value then 1 else 0)) (fun _ => rfl) (by
    intro left right same
    cases left <;> cases right <;> simp_all)

instance : Unambiguous UInt32 := .of_write .word32 (fun _ => rfl) fun _ _ => Write.word32.inj

instance : Unambiguous UInt64 := .of_write .word64 (fun _ => rfl) fun _ _ => Write.word64.inj

instance : Unambiguous Int64 := .of_write .signed64 (fun _ => rfl) fun _ _ => Write.signed64.inj

instance : Unambiguous Char :=
  .of_part Char.val (fun _ => rfl) fun _ _ => Char.ext

instance : Unambiguous String where
  split := by
    intro left right leftRest rightRest same
    simp only [writes, List.cons_append, List.nil_append, List.cons.injEq, Write.bytes.injEq,
      true_and] at same
    exact ⟨String.toByteArray_inj.1 same.1, same.2⟩

instance {α : Type} [Digest α] [Unambiguous α] : Unambiguous (Option α) where
  split := by
    intro left right leftRest rightRest same
    cases left <;> cases right <;> simp_all [writes]

instance : Unambiguous MemberId :=
  .of_part MemberId.raw (fun _ => rfl) fun ⟨_⟩ ⟨_⟩ => congrArg MemberId.mk

instance : Unambiguous MethodId :=
  .of_part MethodId.raw (fun _ => rfl) fun ⟨_⟩ ⟨_⟩ => congrArg MethodId.mk

instance : Unambiguous CtorId :=
  .of_part CtorId.raw (fun _ => rfl) fun ⟨_⟩ ⟨_⟩ => congrArg CtorId.mk

instance : Unambiguous TypeId :=
  .of_part TypeId.raw (fun _ => rfl) fun ⟨_⟩ ⟨_⟩ => congrArg TypeId.mk

theorem tag_injective {α : Type} {all : List α} {tag : α → Nat}
    (listed : ∀ item, all[tag item]? = some item) : Function.Injective tag := by
  intro left right same
  have found := listed left
  rw [same, listed right] at found
  exact (Option.some.inj found).symm

instance : Unambiguous BinaryOp :=
  .of_write (fun op => .tag op.ctorIdx) (fun _ => rfl) fun _ _ same =>
    tag_injective BinaryOp.all_at_tag (Write.tag.inj same)

instance : Unambiguous UnaryOp :=
  .of_write (fun op => .tag op.ctorIdx) (fun _ => rfl) fun _ _ same =>
    tag_injective UnaryOp.all_at_tag (Write.tag.inj same)

instance : Unambiguous NodeKind where
  split := by
    intro left right leftRest rightRest same
    have tags : left.ctorIdx = right.ctorIdx := Write.tag.inj (List.cons.inj same).1
    have contents := (List.cons.inj same).2
    cases left <;> cases right <;> cases tags
    case binary.binary left right | unary.unary left right =>
      have operators : writes left ++ leftRest = writes right ++ rightRest := contents
      obtain ⟨rfl, rests⟩ := Unambiguous.split operators
      exact ⟨rfl, rests⟩
    all_goals exact ⟨rfl, contents⟩

instance : Digest Literal where
  writes value := writes value.meaning

@[simp]
theorem Literal.writes_meaning (value : Literal) : writes value.meaning = writes value := rfl

theorem Literal.writes_eq (value : Literal) :
    writes value = .tag value.ctorIdx ::
      match value with
      | .null => []
      | .bool value => writes value
      | .int value => writes value
      | .float bits => writes bits
      | .char value => writes value
      | .text value => writes value := by
  cases value <;> rfl

instance : Unambiguous Literal where
  split := by
    intro left right leftRest rightRest same
    rw [Literal.writes_eq, Literal.writes_eq] at same
    have tags : left.ctorIdx = right.ctorIdx := Write.tag.inj (List.cons.inj same).1
    have contents := (List.cons.inj same).2
    cases left <;> cases right <;> cases tags
    case null.null => exact ⟨rfl, contents⟩
    all_goals
      obtain ⟨rfl, rests⟩ := Unambiguous.split contents
      exact ⟨rfl, rests⟩

def traitWrites (traits : List (Attribute × Meaning)) : List Write :=
  (traits.map fun trait => writes trait.2).flatten

theorem bound_writes_split {lefts rights : List MemberId} {leftRest rightRest : List Write}
    (length : lefts.length = rights.length)
    (same : lefts.flatMap writes ++ leftRest = rights.flatMap writes ++ rightRest) :
    lefts = rights ∧ leftRest = rightRest := by
  induction lefts generalizing rights with
  | nil =>
      cases rights with
      | nil => exact ⟨rfl, same⟩
      | cons right rights => simp at length
  | cons left lefts induction =>
      cases rights with
      | nil => simp at length
      | cons right rights =>
          rw [List.flatMap_cons, List.flatMap_cons, List.append_assoc, List.append_assoc,
            Unambiguous.writes_append_iff] at same
          obtain ⟨rfl, rests⟩ := induction (by simpa using length) same.2
          exact ⟨by rw [same.1], rests⟩

theorem creation_trait_writes (ctor : Option CtorId) (bound : List MemberId) (arity : Nat) :
    traitWrites ((Content.creation ctor bound).traits (some arity)) =
      writes ctor ++ .count arity :: .count bound.length :: bound.flatMap writes := by
  have members : (bound.mapIdx fun index member =>
      (Attribute.boundMember index, Meaning.plain (.member member))).map
        (fun trait => writes trait.2) = bound.map writes :=
    List.ext_getElem (by simp) (by simp)
  simp [traitWrites, Content.traits, Content.arityTraits, List.flatMap, members]

/-- What the attributes of a kind write determines them, and where their writes end. -/
theorem Content.Suits.writes_split {kind : NodeKind} {left right : Content}
    {leftArity rightArity : Option Nat} {leftRest rightRest : List Write}
    (leftSuits : left.Suits kind leftArity) (rightSuits : right.Suits kind rightArity)
    (same : traitWrites (left.traits leftArity) ++ leftRest =
      traitWrites (right.traits rightArity) ++ rightRest) :
    left = right ∧ leftArity = rightArity ∧ leftRest = rightRest := by
  cases leftSuits with
  | new ctor bound arity =>
      cases rightSuits with
      | new other others otherArity =>
          simp only [creation_trait_writes, List.append_assoc, List.cons_append,
            Unambiguous.writes_append_iff, List.cons.injEq, Write.count.injEq] at same
          -- The count comes before the members, so that it says where they end.
          obtain ⟨rfl, rfl, counts, members⟩ := same
          obtain ⟨rfl, rests⟩ := bound_writes_split counts members
          exact ⟨rfl, rfl, rests⟩
  | binary op info | unary op info =>
      obtain ⟨method, lifted, liftedToNull⟩ := info
      cases rightSuits
      simp_all [traits, traitWrites]
  | _ =>
      cases rightSuits
      simp_all [traits, traitWrites, arityTraits]

theorem profile_writes (profile : Profile) :
    writes profile = writes profile.kind ++ (writes profile.type ++ traitWrites profile.traits) :=
  List.append_assoc _ _ _

theorem Label.Fits.writes_split {left right : Label} {leftCount rightCount : Nat}
    {leftRest rightRest : List Write} (leftFits : left.Fits leftCount)
    (rightFits : right.Fits rightCount)
    (same : writes (left.profile leftCount) ++ leftRest =
      writes (right.profile rightCount) ++ rightRest) :
    left = right ∧ leftCount = rightCount ∧ leftRest = rightRest := by
  simp only [profile_writes, List.append_assoc, Unambiguous.writes_append_iff] at same
  obtain ⟨kinds, types, traits⟩ := same
  have rightSuits := rightFits.suits
  rw [← show left.kind = right.kind from kinds] at rightSuits
  obtain ⟨contents, arities, rests⟩ := leftFits.suits.writes_split rightSuits traits
  have counts : leftCount = rightCount := by
    rw [leftFits.counted, rightFits.counted, contents, arities,
      show left.kind = right.kind from kinds]
  obtain ⟨kind, type, content⟩ := left
  obtain ⟨otherKind, otherType, otherContent⟩ := right
  rw [mk.injEq]
  exact ⟨⟨kinds, types, contents⟩, counts, rests⟩

theorem entry_writes_ne_nil (entry : Label × Nat) : entryWrites entry ≠ [] := by
  rw [entryWrites, profile_writes]
  exact List.cons_ne_nil _ _

theorem entries_prefix {lefts rights : List (Label × Nat)}
    (leftFits : ∀ entry ∈ lefts, entry.1.Fits entry.2)
    (rightFits : ∀ entry ∈ rights, entry.1.Fits entry.2)
    (starts : lefts.flatMap entryWrites <+: rights.flatMap entryWrites) : lefts <+: rights := by
  induction lefts generalizing rights with
  | nil => exact List.nil_prefix
  | cons left lefts induction =>
      rw [List.forall_mem_cons] at leftFits
      cases rights with
      | nil =>
          rw [List.flatMap_cons, List.flatMap_nil, List.prefix_nil,
            List.append_eq_nil_iff] at starts
          exact absurd starts.1 (entry_writes_ne_nil left)
      | cons right rights =>
          rw [List.forall_mem_cons] at rightFits
          obtain ⟨rest, same⟩ := starts
          rw [List.flatMap_cons, List.flatMap_cons, List.append_assoc] at same
          obtain ⟨labels, counts, rests⟩ := leftFits.1.writes_split rightFits.1 same
          rw [Prod.ext labels counts, List.prefix_cons_inj]
          exact induction leftFits.2 rightFits.2 ⟨rest, rests⟩

theorem term_writes_present (term : Term) :
    ∃ tag rest, termWrites (some term) = .tag tag :: rest := by
  cases term with
  | node label terms => exact ⟨_, _, rfl⟩

theorem term_writes_prefix {left right : Option Term}
    (leftFits : ∀ entry ∈ spelling? left, entry.1.Fits entry.2)
    (rightFits : ∀ entry ∈ spelling? right, entry.1.Fits entry.2)
    (starts : termWrites left <+: termWrites right) : left = right := by
  cases left with
  | none =>
      cases right with
      | none => rfl
      | some right =>
          obtain ⟨tag, rest, written⟩ := term_writes_present right
          rw [written] at starts
          cases (List.cons_prefix_cons.1 starts).1
  | some left =>
      cases right with
      | none =>
          obtain ⟨tag, rest, written⟩ := term_writes_present left
          rw [written] at starts
          cases (List.cons_prefix_cons.1 starts).1
      | some right =>
          have spelled := entries_prefix leftFits rightFits starts
          rw [OrderedTree.spelling_prefix_inj spelled]

namespace Tree

variable {workspace : Workspace} {leftHandle rightHandle : ArenaHandle}
  {leftRoot rightRoot : NodeId} {left right : Tree}

theorem readable_of_absent_or {tree : Tree} (sound : tree.isAbsent ∨ tree.WellFormed) :
    tree.validate = .ok () ∧ tree.Typed := by
  rcases sound with absent | wellFormed
  · have missing : ¬tree.root.isPresent := by simpa [isAbsent] using absent
    exact ⟨validate_absent missing, fun present => absurd present missing⟩
  · exact ⟨wellFormed.valid, wellFormed.typed⟩

theorem written_of_validate {tree : Tree} (valid : tree.validate = .ok ()) (typed : tree.Typed) :
    ∃ term, tree.unfold = .ok term ∧ tree.writes = .ok (termWrites term) ∧
      ∀ entry ∈ spelling? term, entry.1.Fits entry.2 := by
  obtain ⟨readings, term, reads, unfolded, spelled⟩ := reads_of_validate valid typed
  obtain ⟨other, otherUnfolded, written⟩ := writes_spec valid typed
  rw [unfolded] at otherUnfolded
  cases otherUnfolded
  refine ⟨term, unfolded, written, ?_⟩
  rw [← spelled]
  intro entry member
  obtain ⟨reading, inside, rfl⟩ := List.mem_map.1 member
  exact reads.fits reading inside

/-- The writes of a tree start the writes of another one exactly if the two trees are reported to be
equal; the hash is a fold of the writes and of nothing else. -/
theorem writes_prefix_iff (reachable : workspace.Reachable)
    (leftHeld : workspace.tree? leftHandle leftRoot = some left)
    (rightHeld : workspace.tree? rightHandle rightRoot = some right)
    (leftSound : left.isAbsent ∨ left.WellFormed) (rightSound : right.isAbsent ∨ right.WellFormed) :
    ∃ report leftWrites rightWrites, left.compare right = .ok report ∧
      left.writes = .ok leftWrites ∧ right.writes = .ok rightWrites ∧
      left.hash = .ok (Digest.foldWrites leftWrites) ∧
      right.hash = .ok (Digest.foldWrites rightWrites) ∧
      (leftWrites <+: rightWrites ↔ report.result = .ok ()) := by
  obtain ⟨leftValid, leftTyped⟩ := readable_of_absent_or leftSound
  obtain ⟨rightValid, rightTyped⟩ := readable_of_absent_or rightSound
  obtain ⟨leftTerm, leftUnfolded, leftWritten, leftFits⟩ := written_of_validate leftValid leftTyped
  obtain ⟨rightTerm, rightUnfolded, rightWritten, rightFits⟩ :=
    written_of_validate rightValid rightTyped
  obtain ⟨report, leftGiven, rightGiven, compared, leftIs, rightIs, exactly⟩ :=
    compare_spec leftValid rightValid leftTyped rightTyped
  rw [leftUnfolded] at leftIs
  rw [rightUnfolded] at rightIs
  cases leftIs
  cases rightIs
  refine ⟨report, termWrites leftTerm, termWrites rightTerm, compared, leftWritten, rightWritten,
    ?_, ?_, ?_⟩
  · rw [hash, leftWritten]
    rfl
  · rw [hash, rightWritten]
    rfl
  · rw [exactly (reachable.compatible leftHeld rightHeld)]
    constructor
    · exact term_writes_prefix leftFits rightFits
    · intro same
      cases same
      exact List.prefix_refl _

theorem writes_prefix_iff_two_arenas :
    ∃ left right report leftWrites rightWrites, twoArenas.Reachable ∧
      twoArenas.tree? ⟨0⟩ ⟨2⟩ = some left ∧ twoArenas.tree? ⟨1⟩ ⟨2⟩ = some right ∧
      left.WellFormed ∧ right.WellFormed ∧ left.compare right = .ok report ∧
      left.writes = .ok leftWrites ∧ right.writes = .ok rightWrites ∧
      left.hash = .ok (Digest.foldWrites leftWrites) ∧
      right.hash = .ok (Digest.foldWrites rightWrites) ∧
      leftWrites <+: rightWrites ∧ report.result = .ok () := by
  obtain ⟨left, leftHeld, right, rightHeld, leftWellFormed, rightWellFormed, same⟩ :=
    two_arenas_held
  obtain ⟨report, compared, equal⟩ := is_equal_true_iff.1 same
  obtain ⟨given, leftWrites, rightWrites, givenCompared, leftWritten, rightWritten, leftHash,
    rightHash, exactly⟩ := writes_prefix_iff two_arenas_reachable leftHeld rightHeld
      (.inr leftWellFormed) (.inr rightWellFormed)
  rw [compared] at givenCompared
  cases givenCompared
  exact ⟨left, right, report, leftWrites, rightWrites, two_arenas_reachable, leftHeld, rightHeld,
    leftWellFormed, rightWellFormed, compared, leftWritten, rightWritten, leftHash, rightHash,
    exactly.2 equal, equal⟩

end Tree

end ExprTree
