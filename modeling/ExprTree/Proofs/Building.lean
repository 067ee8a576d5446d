import ExprTree.Proofs.Stability
import ExprTree.Proofs.Storing

/-!
A construction builds the node that it describes. Its children are the nodes that it names, in
order, and stand before it; what it says, with the strings and lists written out, is what is read of
it afterwards. If everything below the children can be read, so can everything below the new node.
-/

namespace ExprTree

set_option autoImplicit false

namespace Forest

variable {before after : Forest} {id : NodeId} {term : Term}

structure Stands (forest : Forest) (id : NodeId) : Prop where
  inside : id.index < forest.arena.size
  readable : ∀ below, forest.arena.Reaches id below → forest.Readable below

theorem KeptIn.readable (kept : before.KeptIn after) (readable : before.Readable id) :
    after.Readable id :=
  ⟨kept.sound_of_sound readable.1, Nat.lt_of_lt_of_le readable.2 kept.types.size_le⟩

theorem KeptIn.stands (kept : before.KeptIn after) (stands : before.Stands id) :
    after.Stands id where
  inside := Nat.lt_of_lt_of_le stands.inside kept.larger
  readable := by
    intro below reached
    have reachedBefore := kept.reached (fun item way => (stands.readable item way).1) reached
    exact kept.readable (stands.readable below reachedBefore)

theorem Stands.child {parent child : NodeId} (stands : before.Stands parent)
    (step : before.arena.ChildOf parent child) : before.Stands child := by
  have readable (below : NodeId) (reached : before.arena.Reaches child below) :
      before.Readable below :=
    stands.readable below (.head step reached)
  obtain ⟨⟨kind, found, own⟩, _⟩ := stands.readable parent .refl
  obtain ⟨other, foundOther, member⟩ := step
  rw [found] at foundOther
  cases foundOther
  exact ⟨(own.childrenPrecede child member).1, readable⟩

theorem Stands.unfolds (stands : before.Stands id) {depth : Nat} (deep : id.index < depth) :
    ∃ term, before.unfold depth id = .ok term := by
  obtain ⟨uses, used, reached⟩ :=
    Arena.uses_of_sound (fun below way => (stands.readable below way).1) deep
  obtain ⟨term, unfolded, _⟩ :=
    unfold_of_uses used fun item member => stands.readable item (reached item member)
  exact ⟨term, unfolded⟩

/-- Below a node that stands, the same tree is unfolded later, to whatever greater depth. -/
theorem KeptIn.unfold (kept : before.KeptIn after) {depth otherDepth : Nat}
    (stands : before.Stands id) (unfolded : before.unfold depth id = .ok term)
    (deep : depth ≤ otherDepth) : after.unfold otherDepth id = .ok term := by
  induction depth generalizing otherDepth id term with
  | zero => simp [Forest.unfold] at unfolded
  | succ depth induction =>
      obtain ⟨otherDepth, rfl⟩ : ∃ lower, otherDepth = lower + 1 := ⟨otherDepth - 1, by omega⟩
      obtain ⟨label, kind, terms, labelled, found, each, rfl⟩ := unfold_succ_ok_iff.1 unfolded
      -- The node itself reads the same later; what is below it is left to the induction.
      have readable := stands.readable id .refl
      have labelledLater := kept.label readable
      rw [labelled] at labelledLater
      obtain ⟨⟨own, foundOwn, sound⟩, _⟩ := readable
      rw [found] at foundOwn
      cases foundOwn
      obtain ⟨other, foundOther, _, same⟩ := kept.sound found sound
      apply unfold_succ_ok_iff.2
      refine ⟨label, other, terms, labelledLater, foundOther, ?_, rfl⟩
      rw [same]
      have below (child : NodeId) (member : child ∈ before.arena.offspring kind) :
          before.Stands child :=
        stands.child ⟨kind, found, member⟩
      refine ((List.forall₂_and_left _ terms).2 ⟨below, each⟩).imp ?_
      intro child term facts
      exact induction facts.1 facts.2 (by omega)

end Forest

namespace Construction

def children : Construction → List NodeId
  | .constant .. | .int .. | .float .. | .bool .. | .string .. | .null .. | .parameter .. => []
  | .member target _ _ => target.toList
  | .call target _ args _ => target.toList ++ args
  | .invoke callee args _ => callee :: args
  | .typeIs operand _ | .unary _ operand _ _ => [operand]
  | .binary _ left right _ _ => [left, right]
  | .conditional test ifTrue ifFalse _ => [test, ifTrue, ifFalse]
  | .new _ args _ _ => args
  | .newArray elements _ => elements
  | .newArrayBounds bounds _ => bounds
  | .lambda body params _ => body :: params

/-- What the node is to say. Only a literal can be given with a name, which the forest resolves. -/
def label (forest : Forest) : Construction → Except Fault Label
  | .constant value type =>
      (forest.literal value).map fun literal => ⟨.constant, type, .literal literal⟩
  | .int value => .ok ⟨.constant, .int, .literal (.int value)⟩
  | .float bits => .ok ⟨.constant, .double, .literal (.float bits)⟩
  | .bool value => .ok ⟨.constant, .bool, .literal (.bool value)⟩
  | .string text => .ok ⟨.constant, .string, .literal (.text text)⟩
  | .null type => .ok ⟨.constant, type, .literal .null⟩
  | .parameter name type => .ok ⟨.parameter, type, .parameter name⟩
  | .member target id type => .ok ⟨.memberAccess, type, .member id target.isSome⟩
  | .call target method _ type => .ok ⟨.methodCall, type, .method method target.isSome⟩
  | .invoke _ _ type => .ok ⟨.invoke, type, .nothing⟩
  | .typeIs _ tested => .ok ⟨.typeIs, .bool, .tested tested⟩
  | .binary op _ _ info type => .ok ⟨.binary op, type, .operator info⟩
  | .unary op _ info type => .ok ⟨.unary op, type, .operator info⟩
  | .conditional _ _ _ type => .ok ⟨.conditional, type, .nothing⟩
  | .new ctor _ bound type => .ok ⟨.new, type, .creation ctor bound⟩
  | .newArray _ type => .ok ⟨.newArrayInit, type, .nothing⟩
  | .newArrayBounds _ type => .ok ⟨.newArrayBounds, type, .nothing⟩
  | .lambda _ _ type => .ok ⟨.lambda, type, .nothing⟩

structure Fits (construction : Construction) (forest : Forest) : Prop where
  children : ∀ child ∈ construction.children, forest.Stands child
  bound : construction.bound = [] ∨ construction.bound.length = construction.list.length
  params : ∀ body params type, construction = .lambda body params type → ∀ param ∈ params,
    ∃ name, forest.arena.kinds[param.index]? = some (.parameter name)
  names : ∀ name type, construction = .constant (.text name) type →
    name.index < forest.names.size

variable {construction : Construction} {before grown : Forest} {id : NodeId} {name : Name}
  {range : NodeRange} {members : MemberRange}

theorem mem_children_of_mem_list {child : NodeId} (member : child ∈ construction.list) :
    child ∈ construction.children := by
  cases construction with
  | call target method args type => exact List.mem_append_right _ member
  | invoke callee args type => exact List.mem_cons_of_mem _ member
  | lambda body params type => exact List.mem_cons_of_mem _ member
  | new ctor args bound type => exact member
  | newArray elements type => exact member
  | newArrayBounds bounds type => exact member
  | _ => cases member

theorem mem_children_of_mem_operands {child : NodeId}
    (member : child ∈ (construction.kind name range members).operands) :
    child ∈ construction.children := by
  cases construction with
  | invoke callee args type =>
      rw [List.mem_singleton.1 member]
      exact List.mem_cons_self
  | lambda body params type =>
      rw [List.mem_singleton.1 member]
      exact List.mem_cons_self
  | typeIs | unary | binary | conditional => exact member
  | _ => cases member

theorem kind_new {ctor : Option CtorId} {args : NodeRange} {others : MemberRange}
    (same : construction.kind name range members = .new ctor args others) :
    args = range ∧ others = members := by
  cases construction with
  | new =>
      cases same
      exact ⟨rfl, rfl⟩
  | _ => cases same

theorem kind_list {other : NodeRange}
    (listed : other ∈ (construction.kind name range members).list?) : other = range := by
  cases construction with
  | call | invoke | new | newArray | newArrayBounds | lambda =>
      cases listed
      rfl
  | _ => cases listed

namespace Stored

variable (stored : construction.Stored before grown id name range members)

include stored

theorem index : id.index = before.arena.size := by
  rw [stored.number]
  exact UInt32.toNat_ofNat_of_lt' stored.room

theorem found : grown.arena.kinds[id.index]? = some (construction.kind name range members) := by
  rw [stored.index, stored.kinds]
  exact Array.getElem?_push_size

theorem typed (aligned : before.arena.types.size = before.arena.kinds.size) :
    grown.arena.types[id.index]? = some construction.type := by
  have last : id.index = before.arena.types.size := stored.index.trans aligned.symm
  rw [last, stored.types]
  exact Array.getElem?_push_size

/-- The number of a node that was there before is not the absent one, which is larger. -/
theorem present {child : NodeId} (inside : child.index < before.arena.size) : child.isPresent := by
  have room := stored.room
  rw [NodeId.isPresent, bne_iff_ne]
  rintro rfl
  have largest : NodeId.absent.index = UInt32.size - 1 := rfl
  omega

theorem offspring (fits : construction.Fits before) :
    grown.arena.offspring (construction.kind name range members) = construction.children := by
  -- What is left out of the slots are absent nodes, and no child is absent.
  have present : construction.children.filter NodeId.isPresent = construction.children := by
    apply List.filter_eq_self.2
    intro child member
    exact stored.present (fits.children child member).inside
  have list := stored.list
  rw [← present, Arena.offspring, Arena.slots]
  cases construction with
  | member target => cases target <;> rfl
  | call target method args =>
      cases target <;>
        simp [kind, ExprKind.target?, ExprKind.operands, ExprKind.list?, children, list,
          Construction.list, NodeId.isPresent]
  | _ =>
      simp [kind, ExprKind.target?, ExprKind.operands, ExprKind.list?, children, list,
        Construction.list]

theorem text (consistent : before.names.Consistent) {text : String}
    (spelled : construction.text? = some text) : grown.text name = .ok text := by
  rw [Forest.text_ok_iff]
  exact Interner.lookup_interned consistent (stored.named text spelled)

theorem target_present (fits : construction.Fits before) {target : Option NodeId}
    (among : ∀ child, child ∈ target.toList → child ∈ construction.children) :
    (target.getD .absent).isPresent = target.isSome := by
  cases target with
  | none => rfl
  | some child =>
      have member := among child (by simp)
      exact stored.present (fits.children child member).inside

theorem sound_as (grows : before.Extends grown) (fits : construction.Fits before)
    (consistent : before.names.Consistent) :
    grown.SoundAs id (construction.kind name range members) where
  operandsPresent := by
    intro child member
    exact stored.present (fits.children child (mem_children_of_mem_operands member)).inside
  entriesPresent := by
    intro other listed child member
    rw [kind_list listed, stored.list] at member
    exact stored.present (fits.children child (mem_children_of_mem_list member)).inside
  childrenPrecede := by
    rw [stored.offspring fits]
    intro child member
    have inside := (fits.children child member).inside
    have index := stored.index
    exact ⟨Nat.lt_of_lt_of_le inside grows.kept.larger, by omega⟩
  listInside := by
    intro other listed
    rw [kind_list listed]
    exact stored.listInside
  membersInside := by
    intro ctor args others same
    rw [(kind_new same).2]
    exact stored.boundInside
  membersMatch := by
    intro ctor args others same
    obtain ⟨rfl, rfl⟩ := kind_new same
    have boundLength := ListTable.length_run stored.boundInside
    have listLength := ListTable.length_run stored.listInside
    have list : grown.arena.childLists.run args = construction.list := stored.list
    rw [stored.bound] at boundLength
    rw [list] at listLength
    rcases fits.bound with nothing | alike
    · rw [nothing] at boundLength
      exact .inl boundLength.symm
    · exact .inr (boundLength.symm.trans (alike.trans listLength))
  paramsNamed := by
    intro body params same param member
    cases construction with
    | lambda body own type =>
        cases same
        rw [stored.list] at member
        obtain ⟨name, found⟩ := fits.params body own type rfl param member
        obtain ⟨_, foundLater, rfl⟩ := KeptBy.of_prefix grows.arena.kinds _ _ found
        exact ⟨name, foundLater⟩
    | _ => cases same
  namesKnown := by
    intro other same
    cases construction with
    | constant value type =>
        have value : value = .text other := by simpa [kind] using same
        exact Nat.lt_of_lt_of_le (fits.names other type (by rw [value])) grows.names.length_le
    | string text =>
        have own : name = other := by simpa [kind] using same
        rw [← own]
        exact Forest.known_of_text (stored.text consistent rfl)
    | parameter text type =>
        have own : name = other := by simpa [kind] using same
        rw [← own]
        exact Forest.known_of_text (stored.text consistent rfl)
    | _ => simp [kind] at same

theorem content (grows : before.Extends grown) (fits : construction.Fits before)
    (consistent : before.names.Consistent) :
    ∃ content, grown.content (construction.kind name range members) = .ok content ∧
      construction.label before =
        .ok ⟨(construction.kind name range members).nodeKind, construction.type, content⟩ := by
  cases construction with
  | constant value type =>
      cases value with
      | text own =>
          obtain ⟨text, found⟩ := Forest.text_of_known (fits.names own type rfl)
          have foundLater : grown.text own = .ok text := by
            rw [Forest.text_ok_iff] at found ⊢
            exact grows.names.lookup found
          refine ⟨.literal (.text text), ?_, ?_⟩
          · rw [kind, Forest.content, Forest.literal, foundLater]
            rfl
          · rw [label, Forest.literal, found]
            rfl
      | _ => exact ⟨_, rfl, rfl⟩
  | string text =>
      refine ⟨.literal (.text text), ?_, rfl⟩
      rw [kind, Forest.content, Forest.literal, stored.text consistent rfl]
      rfl
  | parameter text type =>
      refine ⟨.parameter text, ?_, rfl⟩
      rw [kind, Forest.content, stored.text consistent rfl]
      rfl
  | member target own type =>
      refine ⟨.member own target.isSome, ?_, rfl⟩
      rw [kind, Forest.content, stored.target_present fits fun _ member => member]
  | call target method args type =>
      refine ⟨.method method target.isSome, ?_, rfl⟩
      rw [kind, Forest.content, stored.target_present fits fun _ => List.mem_append_left args]
  | new ctor args bound type =>
      refine ⟨.creation ctor bound, ?_, rfl⟩
      rw [kind, Forest.content, Arena.member_list_eq stored.boundInside, stored.bound]
      rfl
  | _ => exact ⟨_, rfl, rfl⟩

theorem label (grows : before.Extends grown) (fits : construction.Fits before)
    (consistent : before.names.Consistent)
    (aligned : before.arena.types.size = before.arena.kinds.size) :
    ∃ label, construction.label before = .ok label ∧ grown.label id = .ok label := by
  obtain ⟨content, read, said⟩ := stored.content grows fits consistent
  have type : grown.arena.type id = .ok construction.type := by
    rw [Arena.type, stored.typed aligned]
  refine ⟨_, said, ?_⟩
  exact bind_ok_iff.2 ⟨_, Arena.kind_ok_iff.2 stored.found, bind_ok_iff.2 ⟨_, type,
    bind_ok_iff.2 ⟨content, read, rfl⟩⟩⟩

theorem stands (grows : before.Extends grown) (fits : construction.Fits before)
    (consistent : before.names.Consistent)
    (aligned : before.arena.types.size = before.arena.kinds.size) : grown.Stands id where
  inside := (Array.getElem?_eq_some_iff.1 stored.found).1
  readable := by
    intro below reached
    rcases reached.cases_head with rfl | ⟨child, ⟨kind, found, member⟩, further⟩
    · have sound := stored.sound_as grows fits consistent
      have typed := (Array.getElem?_eq_some_iff.1 (stored.typed aligned)).1
      exact ⟨⟨_, stored.found, sound⟩, typed⟩
    · rw [stored.found, Option.some.injEq] at found
      rw [← found, stored.offspring fits] at member
      have standing := grows.kept.stands (fits.children child member)
      exact standing.readable below further

/-- The children unfold, and the new node unfolds to what it is to say above them. -/
theorem unfold (grows : before.Extends grown) (fits : construction.Fits before)
    (consistent : before.names.Consistent)
    (aligned : before.arena.types.size = before.arena.kinds.size) :
    ∃ label terms, construction.label before = .ok label ∧
      List.Forall₂ (fun child term => before.unfold before.arena.size child = .ok term)
        construction.children terms ∧
      grown.unfold (before.arena.size + 1) id = .ok (.node label terms) := by
  obtain ⟨label, said, labelled⟩ := stored.label grows fits consistent aligned
  obtain ⟨terms, unfolded⟩ := map_m_total fun child member =>
    (fits.children child member).unfolds (fits.children child member).inside
  have each := map_m_ok_iff.1 unfolded
  refine ⟨label, terms, said, each, ?_⟩
  apply Forest.unfold_succ_ok_iff.2
  refine ⟨label, _, terms, labelled, stored.found, ?_, rfl⟩
  rw [stored.offspring fits]
  refine ((List.forall₂_and_left _ terms).2 ⟨fits.children, each⟩).imp ?_
  intro child term facts
  exact grows.kept.unfold facts.1 facts.2 (Nat.le_refl _)

end Stored

end Construction

end ExprTree
