import ExprTree.Proofs.Hashing
import ExprTree.Proofs.Matching

/-!
When a tree of one forest is the same tree in another one: it is enough that the second forest holds
all that the first one holds, at the same places, with names that stand for the same strings. A node
that is sound in the first forest is then sound in the second, with the same children and the same
reading, so that a root that is well formed in the first has the same readings in both. Listing,
hash and comparison depend on nothing else.
-/

namespace ExprTree

set_option autoImplicit false

/-- Each item of the first array has a related one at its place in the second. -/
def KeptBy {Item : Type} (relation : Item → Item → Prop) (before after : Array Item) : Prop :=
  ∀ (position : Nat) item, before[position]? = some item →
    ∃ later, after[position]? = some later ∧ relation item later

theorem KeptBy.size_le {Item : Type} {relation : Item → Item → Prop} {before after : Array Item}
    (kept : KeptBy relation before after) : before.size ≤ after.size := by
  apply Nat.le_of_not_lt
  intro smaller
  obtain ⟨later, found, _⟩ := kept after.size _ (Array.getElem?_eq_getElem smaller)
  simp at found

namespace ListTable

variable {α : Type} {before after : ListTable α}

def Extends (before after : ListTable α) : Prop := before.entries.toList <+: after.entries.toList

theorem Extends.inside (grown : before.Extends after) {span : Span α}
    (inside : before.Inside span) : after.Inside span := by
  rcases inside with empty | within
  · exact .inl empty
  · exact .inr (Nat.le_trans within grown.length_le)

theorem Extends.run (grown : before.Extends after) {span : Span α} (inside : before.Inside span) :
    after.run span = before.run span := by
  rcases inside with empty | within
  · simp [ListTable.run, empty]
  · obtain ⟨more, same⟩ := grown
    have long : span.first + span.size ≤ before.entries.toList.length := within
    rw [ListTable.run, ListTable.run, ← same, List.drop_append_of_le_length (by omega),
      List.take_append_of_le_length (by rw [List.length_drop]; omega)]

end ListTable

namespace ExprKind

def name? : ExprKind → Option Name
  | .parameter name | .constant (.text name) => some name
  | _ => none

inductive Renamed (alike : Name → Name → Prop) : ExprKind → ExprKind → Prop where
  | parameter {name other : Name} (named : alike name other) :
      Renamed alike (.parameter name) (.parameter other)
  | text {name other : Name} (named : alike name other) :
      Renamed alike (.constant (.text name)) (.constant (.text other))
  | nameless {kind : ExprKind} (unnamed : kind.name? = none) : Renamed alike kind kind

theorem renamed_self {alike : Name → Name → Prop} {kind : ExprKind}
    (same : ∀ name, kind.name? = some name → alike name name) : kind.Renamed alike kind := by
  cases kind with
  | parameter name => exact .parameter (same name rfl)
  | constant value =>
      cases value with
      | text name => exact .text (same name rfl)
      | _ => exact .nameless rfl
  | _ => exact .nameless rfl

namespace Renamed

variable {alike : Name → Name → Prop} {kind other : ExprKind}

theorem node_kind (renamed : kind.Renamed alike other) : other.nodeKind = kind.nodeKind := by
  cases renamed <;> rfl

theorem target (renamed : kind.Renamed alike other) : other.target? = kind.target? := by
  cases renamed <;> rfl

theorem operands (renamed : kind.Renamed alike other) : other.operands = kind.operands := by
  cases renamed <;> rfl

theorem list (renamed : kind.Renamed alike other) : other.list? = kind.list? := by
  cases renamed <;> rfl

end Renamed

end ExprKind

namespace Forest

/-- What the first name stands for in the first forest, the other one stands for in the second. -/
def SameText (before after : Forest) (name other : Name) : Prop :=
  ∀ text, before.text name = .ok text → after.text other = .ok text

structure KeptIn (before after : Forest) : Prop where
  kinds : KeptBy (ExprKind.Renamed (before.SameText after)) before.arena.kinds after.arena.kinds
  types : KeptBy Eq before.arena.types after.arena.types
  childLists : before.arena.childLists.Extends after.arena.childLists
  memberLists : before.arena.memberLists.Extends after.arena.memberLists

variable {before after : Forest}

theorem KeptIn.larger (kept : before.KeptIn after) : before.arena.size ≤ after.arena.size :=
  kept.kinds.size_le

theorem known_of_text {forest : Forest} {name : Name} {text : String}
    (found : forest.text name = .ok text) : name.index < forest.names.size := by
  rw [text_ok_iff] at found
  exact (Array.getElem?_eq_some_iff.1 found).1

theorem SameText.known {name other : Name} (same : before.SameText after name other)
    (known : name.index < before.names.size) : other.index < after.names.size := by
  obtain ⟨text, found⟩ := text_of_known known
  exact known_of_text (same text found)

namespace KeptIn

variable {id : NodeId} {kind other : ExprKind}

theorem entries (kept : before.KeptIn after) {range : NodeRange}
    (inside : before.arena.childLists.Inside range) :
    after.arena.entries range = before.arena.entries range :=
  kept.childLists.run inside

theorem offspring (kept : before.KeptIn after) (own : before.SoundAs id kind)
    (renamed : kind.Renamed (before.SameText after) other) :
    after.arena.offspring other = before.arena.offspring kind := by
  have listed : kind.list?.toList.flatMap after.arena.entries =
      kind.list?.toList.flatMap before.arena.entries := by
    apply List.flatMap_congr
    intro range member
    exact kept.entries (own.listInside range (by simpa using member))
  rw [Arena.offspring, Arena.offspring, Arena.slots, Arena.slots, renamed.target, renamed.operands,
    renamed.list, listed]

theorem sound_as (kept : before.KeptIn after) (own : before.SoundAs id kind)
    (renamed : kind.Renamed (before.SameText after) other) : after.SoundAs id other where
  operandsPresent := by
    rw [renamed.operands]
    exact own.operandsPresent
  entriesPresent := by
    rw [renamed.list]
    intro range listed
    rw [kept.entries (own.listInside range listed)]
    exact own.entriesPresent range listed
  childrenPrecede := by
    rw [kept.offspring own renamed]
    intro child member
    have older := own.childrenPrecede child member
    exact ⟨Nat.lt_of_lt_of_le older.1 kept.larger, older.2⟩
  listInside := by
    rw [renamed.list]
    intro range listed
    exact kept.childLists.inside (own.listInside range listed)
  membersInside := by
    rintro ctor args members rfl
    cases renamed
    exact kept.memberLists.inside (own.membersInside ctor args members rfl)
  membersMatch := by
    rintro ctor args members rfl
    cases renamed
    exact own.membersMatch ctor args members rfl
  paramsNamed := by
    rintro body params rfl param member
    cases renamed
    rw [kept.entries (own.listInside params rfl)] at member
    obtain ⟨name, found⟩ := own.paramsNamed body params rfl param member
    obtain ⟨later, foundLater, named⟩ := kept.kinds _ _ found
    cases named with
    | parameter _ => exact ⟨_, foundLater⟩
    | nameless unnamed => cases unnamed
  namesKnown := by
    rintro otherName (rfl | rfl)
    · cases renamed with
      | parameter named => exact named.known (own.namesKnown _ (.inl rfl))
      | nameless unnamed => cases unnamed
    · cases renamed with
      | text named => exact named.known (own.namesKnown _ (.inr rfl))
      | nameless unnamed => cases unnamed

theorem sound (kept : before.KeptIn after) (found : before.arena.kinds[id.index]? = some kind)
    (own : before.SoundAs id kind) :
    ∃ other, after.arena.kinds[id.index]? = some other ∧ after.SoundAs id other ∧
      after.arena.offspring other = before.arena.offspring kind := by
  obtain ⟨other, foundOther, renamed⟩ := kept.kinds _ _ found
  exact ⟨other, foundOther, kept.sound_as own renamed, kept.offspring own renamed⟩

theorem content (kept : before.KeptIn after) (own : before.SoundAs id kind)
    (renamed : kind.Renamed (before.SameText after) other) :
    after.content other = before.content kind := by
  cases renamed with
  | parameter named =>
      obtain ⟨text, found⟩ := text_of_known (own.namesKnown _ (.inl rfl))
      rw [Forest.content, Forest.content, found, named text found]
  | text named =>
      obtain ⟨text, found⟩ := text_of_known (own.namesKnown _ (.inr rfl))
      rw [Forest.content, Forest.content, literal, literal, found, named text found]
  | nameless unnamed =>
      cases kind with
      | constant value =>
          cases value with
          | text name => cases unnamed
          | _ => rfl
      | parameter name => cases unnamed
      | new ctor args members =>
          have inside := own.membersInside ctor args members rfl
          rw [Forest.content, Forest.content, Arena.member_list_eq inside,
            Arena.member_list_eq (kept.memberLists.inside inside), kept.memberLists.run inside]
      | _ => rfl

theorem label (kept : before.KeptIn after) (readable : before.Readable id) :
    after.label id = before.label id := by
  obtain ⟨⟨kind, found, own⟩, typed⟩ := readable
  obtain ⟨other, foundOther, renamed⟩ := kept.kinds _ _ found
  have type : after.arena.type id = before.arena.type id := by
    have typeFound := Array.getElem?_eq_getElem typed
    obtain ⟨_, later, rfl⟩ := kept.types _ _ typeFound
    rw [Arena.type, Arena.type, later, typeFound]
  simp only [Forest.label, Arena.kind_ok_iff.2 found, Arena.kind_ok_iff.2 foundOther, type,
    renamed.node_kind, kept.content own renamed, bind, Except.bind]

theorem entry (kept : before.KeptIn after) (readable : before.Readable id) :
    after.entry id = before.entry id := by
  have labelled := kept.label readable
  obtain ⟨⟨kind, found, own⟩, _⟩ := readable
  obtain ⟨other, foundOther, renamed⟩ := kept.kinds _ _ found
  simp only [Forest.entry, labelled, Arena.kind_ok_iff.2 found, Arena.kind_ok_iff.2 foundOther,
    bind, Except.bind, kept.offspring own renamed]

end KeptIn

theorem KeptIn.sound_of_sound (kept : before.KeptIn after) {id : NodeId} (sound : before.Sound id) :
    after.Sound id := by
  obtain ⟨kind, found, own⟩ := sound
  obtain ⟨other, foundOther, otherOwn, _⟩ := kept.sound found own
  exact ⟨other, foundOther, otherOwn⟩

theorem KeptIn.child_of_iff (kept : before.KeptIn after) {parent child : NodeId}
    (sound : before.Sound parent) :
    after.arena.ChildOf parent child ↔ before.arena.ChildOf parent child := by
  obtain ⟨kind, found, own⟩ := sound
  obtain ⟨other, foundOther, _, same⟩ := kept.sound found own
  simp [Arena.ChildOf, found, foundOther, same]

theorem KeptIn.reached (kept : before.KeptIn after) {root id : NodeId}
    (sound : ∀ below, before.arena.Reaches root below → before.Sound below)
    (reached : after.arena.Reaches root id) : before.arena.Reaches root id := by
  induction reached with
  | refl => exact .refl
  | tail _ step induction => exact .tail induction ((kept.child_of_iff (sound _ induction)).1 step)

/-- The uses below a node are the same, to whatever greater depth they are followed. -/
theorem KeptIn.uses (kept : before.KeptIn after) {depth otherDepth : Nat} {id : NodeId}
    {tree : OrderedTree NodeId}
    (sound : ∀ below, before.arena.Reaches id below → before.Sound below)
    (used : before.arena.uses depth id = .ok tree) (deep : depth ≤ otherDepth) :
    after.arena.uses otherDepth id = .ok tree := by
  induction depth generalizing otherDepth id tree with
  | zero => simp [Arena.uses] at used
  | succ depth induction =>
      obtain ⟨otherDepth, rfl⟩ : ∃ lower, otherDepth = lower + 1 := ⟨otherDepth - 1, by omega⟩
      obtain ⟨children, trees, listed, each, rfl⟩ := Arena.uses_succ_ok_iff.1 used
      obtain ⟨kind, found, own⟩ := sound id .refl
      obtain ⟨other, foundOther, otherOwn, same⟩ := kept.sound found own
      rw [own.children found, Except.ok.injEq] at listed
      have otherListed : after.arena.children id = .ok children := by
        rw [otherOwn.children foundOther, same, listed]
      have below (child : NodeId) (member : child ∈ children) (item : NodeId)
          (reached : before.arena.Reaches child item) : before.Sound item := by
        rw [← listed] at member
        exact sound item (.head ⟨kind, found, member⟩ reached)
      refine Arena.uses_succ_ok_iff.2 ⟨children, trees, otherListed, ?_, rfl⟩
      refine ((List.forall₂_and_left children trees).2 ⟨below, each⟩).imp ?_
      intro child tree facts
      exact induction facts.1 facts.2 (by omega)

end Forest

namespace Tree

variable {before after : Forest} {root : NodeId}

theorem Rooted.kept (rooted : Rooted ⟨before, root⟩) (kept : before.KeptIn after) :
    Rooted ⟨after, root⟩ := by
  constructor
  · have inside : root.index < before.arena.size := rooted.inside
    exact Arena.contains_iff.2 ⟨rooted.present, Nat.lt_of_lt_of_le inside kept.larger⟩
  · intro id reached
    have reachedBefore := kept.reached rooted.reached reached
    exact kept.sound_of_sound (rooted.reached id reachedBefore)

theorem validate_kept (kept : before.KeptIn after)
    (valid : (Tree.mk before root).validate = .ok ()) :
    (Tree.mk after root).validate = .ok () := by
  by_cases present : root.isPresent
  · exact validate_rooted ((rooted_of_validate present valid).kept kept)
  · exact validate_absent present

theorem Typed.kept (typed : Typed ⟨before, root⟩) (kept : before.KeptIn after) :
    Typed ⟨after, root⟩ := by
  intro present
  exact Nat.lt_of_lt_of_le (typed present) kept.types.size_le

theorem sequence_kept (kept : before.KeptIn after) (valid : (Tree.mk before root).validate = .ok ())
    {ids : List NodeId} (met : (Tree.mk before root).sequence = .ok ids) :
    (Tree.mk after root).sequence = .ok ids := by
  by_cases present : root.isPresent
  · rw [sequence_present present] at met ⊢
    obtain ⟨uses, used, rfl⟩ := map_ok_iff.1 met
    have rooted := rooted_of_validate present valid
    have deeper : depthBound ⟨before, root⟩ ≤ depthBound ⟨after, root⟩ :=
      Nat.succ_le_succ kept.larger
    rw [kept.uses rooted.reached used deeper]
    rfl
  · rw [sequence_absent present] at met ⊢
    exact met

theorem Reads.kept {readings : List Reading} (reads : Reads ⟨before, root⟩ readings)
    (kept : before.KeptIn after) (valid : (Tree.mk before root).validate = .ok ()) :
    Reads ⟨after, root⟩ readings := by
  refine ⟨sequence_kept kept valid reads.met, ?_⟩
  intro reading member
  obtain ⟨⟨sound, typed⟩, entered⟩ := reads.read reading member
  refine ⟨⟨kept.sound_of_sound sound, Nat.lt_of_lt_of_le typed kept.types.size_le⟩, ?_⟩
  rw [kept.entry ⟨sound, typed⟩]
  exact entered

/-- Two trees of which the same can be read, in two forests or in one. -/
structure SameReadings (tree other : Tree) : Prop where
  valid : tree.validate = .ok ()
  otherValid : other.validate = .ok ()
  same : ∃ readings, tree.Reads readings ∧ other.Reads readings

theorem same_readings_kept (kept : before.KeptIn after)
    (valid : (Tree.mk before root).validate = .ok ()) (typed : Typed ⟨before, root⟩) :
    SameReadings ⟨before, root⟩ ⟨after, root⟩ := by
  obtain ⟨readings, _, reads, _⟩ := reads_of_validate valid typed
  exact ⟨valid, validate_kept kept valid, readings, reads, reads.kept kept valid⟩

namespace SameReadings

variable {tree other left right otherLeft otherRight : Tree}

theorem refl (valid : tree.validate = .ok ()) (typed : tree.Typed) : tree.SameReadings tree := by
  obtain ⟨readings, _, reads, _⟩ := reads_of_validate valid typed
  exact ⟨valid, valid, readings, reads, reads⟩

theorem symm (same : tree.SameReadings other) : other.SameReadings tree where
  valid := same.otherValid
  otherValid := same.valid
  same := by
    obtain ⟨readings, reads, otherReads⟩ := same.same
    exact ⟨readings, otherReads, reads⟩

theorem listing (same : tree.SameReadings other) :
    ∃ ids, tree.listing = .ok ids ∧ other.listing = .ok ids := by
  obtain ⟨readings, reads, otherReads⟩ := same.same
  exact ⟨_, reads.listing, otherReads.listing⟩

theorem unfold (same : tree.SameReadings other) :
    ∃ term, tree.unfold = .ok term ∧ other.unfold = .ok term := by
  obtain ⟨readings, reads, otherReads⟩ := same.same
  obtain ⟨own, term, ownReads, unfolded, spelled⟩ := reads_of_validate same.valid reads.typed
  obtain ⟨others, otherTerm, othersReads, otherUnfolded, otherSpelled⟩ :=
    reads_of_validate same.otherValid otherReads.typed
  rw [reads.unique ownReads] at otherReads
  rw [← otherReads.unique othersReads, spelled] at otherSpelled
  rw [← spelling_inj otherSpelled] at otherUnfolded
  exact ⟨term, unfolded, otherUnfolded⟩

theorem hash (same : tree.SameReadings other) :
    ∃ hash, tree.hash = .ok hash ∧ other.hash = .ok hash := by
  obtain ⟨readings, reads, otherReads⟩ := same.same
  obtain ⟨shared, shares, otherShares⟩ := same.unfold
  obtain ⟨term, unfolded, hash⟩ := hash_spec same.valid reads.typed
  obtain ⟨otherTerm, otherUnfolded, otherHash⟩ := hash_spec same.otherValid otherReads.typed
  rw [shares] at unfolded
  rw [otherShares] at otherUnfolded
  cases unfolded
  cases otherUnfolded
  exact ⟨_, hash, otherHash⟩

theorem compare (leftSame : left.SameReadings otherLeft) (rightSame : right.SameReadings otherRight)
    (compatible : left.forest.Compatible right.forest)
    (otherCompatible : otherLeft.forest.Compatible otherRight.forest) :
    ∃ report, left.compare right = .ok report ∧ otherLeft.compare otherRight = .ok report := by
  obtain ⟨lefts, leftReads, otherLeftReads⟩ := leftSame.same
  obtain ⟨rights, rightReads, otherRightReads⟩ := rightSame.same
  obtain ⟨report, compared, exactly⟩ :=
    compare_of_reads leftSame.valid rightSame.valid leftReads rightReads
  obtain ⟨otherReport, otherCompared, otherExactly⟩ :=
    compare_of_reads leftSame.otherValid rightSame.otherValid otherLeftReads otherRightReads
  rw [exactly compatible] at compared
  rw [otherExactly otherCompatible] at otherCompared
  exact ⟨_, compared, otherCompared⟩

theorem equal (same : tree.SameReadings other) (compatible : tree.forest.Compatible other.forest) :
    ∃ report, tree.compare other = .ok report ∧ report.result = .ok () := by
  obtain ⟨readings, reads, otherReads⟩ := same.same
  obtain ⟨report, term, otherTerm, compared, unfolded, otherUnfolded, exactly⟩ :=
    compare_spec same.valid same.otherValid reads.typed otherReads.typed
  obtain ⟨shared, shares, otherShares⟩ := same.unfold
  rw [shares, Except.ok.injEq] at unfolded
  rw [otherShares, Except.ok.injEq] at otherUnfolded
  refine ⟨report, compared, (exactly compatible).2 ?_⟩
  rw [← Option.some_inj, unfolded.symm.trans otherUnfolded]

end SameReadings

end Tree

end ExprTree
