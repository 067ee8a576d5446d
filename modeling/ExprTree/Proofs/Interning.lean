import ExprTree.Arena.Document
import ExprTree.Proofs.Except

/-!
The index of an interner and its strings are inverse to each other, however the interner came
about: by interning, or by reading, which interns as well. So no string has two names, and names are
equal exactly if their strings are.
-/

namespace ExprTree

set_option autoImplicit false

def Interner.Consistent (interner : Interner) : Prop :=
  ∀ text name, interner.index[text]? = some name ↔ interner.lookup? name = some text

namespace Interner

theorem index_inj {left right : Name} (same : left.index = right.index) : left = right := by
  obtain ⟨left⟩ := left
  obtain ⟨right⟩ := right
  rw [Name.mk.injEq]
  exact UInt32.toNat_inj.1 same

theorem Consistent.same_name_iff {interner : Interner} (consistent : interner.Consistent)
    {leftName rightName : Name} {leftText rightText : String}
    (leftFound : interner.lookup? leftName = some leftText)
    (rightFound : interner.lookup? rightName = some rightText) :
    leftName = rightName ↔ leftText = rightText := by
  constructor
  · intro same
    rw [same, rightFound] at leftFound
    exact (Option.some.inj leftFound).symm
  · intro same
    have leftIndexed := (consistent leftText leftName).2 leftFound
    have rightIndexed := (consistent rightText rightName).2 rightFound
    rw [same, rightIndexed] at leftIndexed
    exact (Option.some.inj leftIndexed).symm

theorem consistent_push {interner : Interner} (consistent : interner.Consistent) {text : String}
    {name : Name} (absent : interner.index[text]? = none)
    (last : name.index = interner.strings.size) :
    Consistent ⟨interner.strings.push text, interner.index.insert text name⟩ := by
  intro other given
  simp only [lookup?, Std.TreeMap.getElem?_insert, Array.getElem?_push,
    Std.compare_eq_iff_eq]
  by_cases new : given.index = interner.strings.size
  · have own : given = name := index_inj (new.trans last.symm)
    rw [if_pos new, own]
    by_cases same : text = other
    · simp [same]
    · have unnamed : interner.index[other]? ≠ some name := by
        intro indexed
        have found := (consistent other name).1 indexed
        simp [lookup?, last] at found
      simp [same, unnamed]
  · have earlier : name ≠ given := by
      intro same
      rw [← same] at new
      exact new last
    rw [if_neg new]
    by_cases same : text = other
    · have unfound : interner.lookup? given ≠ some text := by
        intro found
        have indexed := (consistent text given).2 found
        rw [absent] at indexed
        cases indexed
      rw [lookup?] at unfound
      rw [← same]
      simp [earlier, unfound]
    · rw [if_neg same]
      exact consistent other given

theorem fresh_consistent : fresh.Consistent := by
  have empty : Consistent ⟨#[], ∅⟩ := by
    intro text name
    simp [lookup?]
  have first : Name.empty.index = 0 := rfl
  exact consistent_push empty (by simp) first

/-- What becomes of a string: it has a name already, or it gets the next one, or there is none left. -/
theorem intern_cases (interner : Interner) (text : String) :
    (∃ name, interner.index[text]? = some name ∧ interner.intern text = (interner, .ok name)) ∨
    (interner.index[text]? = none ∧ interner.size < capacity ∧
      interner.intern text =
        (⟨interner.strings.push text, interner.index.insert text ⟨.ofNat interner.size⟩⟩,
          .ok ⟨.ofNat interner.size⟩)) ∨
    (interner.index[text]? = none ∧ ¬interner.size < capacity ∧
      interner.intern text = (interner, .error (.overflow interner.size))) := by
  unfold intern
  cases indexed : interner.index[text]? with
  | some name => exact .inl ⟨name, rfl, rfl⟩
  | none =>
      by_cases room : interner.size < capacity
      · exact .inr (.inl ⟨rfl, room, if_pos room⟩)
      · exact .inr (.inr ⟨rfl, room, if_neg room⟩)

theorem intern_changes (interner : Interner) (text : String) :
    (interner.intern text).1 = interner ∨
    (interner.index[text]? = none ∧ interner.size < capacity ∧
      (interner.intern text).1 =
        ⟨interner.strings.push text, interner.index.insert text ⟨.ofNat interner.size⟩⟩) := by
  rcases interner.intern_cases text with ⟨name, _, known⟩ | ⟨absent, room, new⟩ | ⟨_, _, full⟩
  · exact .inl (by rw [known])
  · exact .inr ⟨absent, room, by rw [new]⟩
  · exact .inl (by rw [full])

theorem next_index {interner : Interner} (room : interner.size < capacity) :
    Name.index ⟨.ofNat interner.size⟩ = interner.size := by
  have small : interner.size < UInt32.size := by
    rw [capacity] at room
    omega
  simp [Name.index, Nat.mod_eq_of_lt small]

theorem intern_answers {interner : Interner} (text : String) (room : interner.size < capacity) :
    ∃ name, (interner.intern text).2 = .ok name := by
  rcases interner.intern_cases text with ⟨name, _, known⟩ | ⟨_, _, new⟩ | ⟨_, full, _⟩
  · exact ⟨name, by rw [known]⟩
  · exact ⟨_, by rw [new]⟩
  · exact absurd room full

theorem intern_consistent {interner : Interner} (consistent : interner.Consistent)
    (text : String) : (interner.intern text).1.Consistent := by
  rcases interner.intern_changes text with same | ⟨absent, room, new⟩
  · rw [same]
    exact consistent
  · rw [new]
    exact consistent_push consistent absent (next_index room)

theorem intern_known {interner : Interner} {text : String} {name : Name}
    (consistent : interner.Consistent)
    (found : interner.lookup? name = some text) : interner.intern text = (interner, .ok name) := by
  have indexed := (consistent text name).2 found
  rcases interner.intern_cases text with ⟨other, known, interned⟩ | ⟨absent, _⟩ | ⟨absent, _⟩
  · rw [indexed, Option.some.injEq] at known
    rw [interned, known]
  · rw [indexed] at absent
    cases absent
  · rw [indexed] at absent
    cases absent

theorem lookup_interned {interner grown : Interner} {text : String} {name : Name}
    (consistent : interner.Consistent)
    (interned : interner.intern text = (grown, .ok name)) : grown.lookup? name = some text := by
  rcases interner.intern_cases text with ⟨other, known, same⟩ | ⟨_, room, same⟩ | ⟨_, _, same⟩
  · rw [same, Prod.mk.injEq, Except.ok.injEq] at interned
    obtain ⟨rfl, rfl⟩ := interned
    exact (consistent text other).1 known
  · rw [same, Prod.mk.injEq, Except.ok.injEq] at interned
    obtain ⟨rfl, rfl⟩ := interned
    rw [lookup?, next_index room]
    exact Array.getElem?_push_size
  · rw [same] at interned
    cases interned

/-- The interners that come of interning strings, one after the other, in a fresh one. -/
inductive Attainable : Interner → Prop where
  | fresh : Attainable fresh
  | intern {interner : Interner} (earlier : Attainable interner) (text : String) :
      Attainable (interner.intern text).1

theorem Attainable.consistent {interner : Interner} (attainable : interner.Attainable) :
    interner.Consistent := by
  induction attainable with
  | fresh => exact fresh_consistent
  | intern _ text consistent => exact intern_consistent consistent text

theorem read_from_attainable {texts : List String} {interner grown : Interner} {position : Nat}
    (attainable : interner.Attainable) (read : interner.readFrom position texts = .ok grown) :
    grown.Attainable := by
  induction texts generalizing interner position with
  | nil =>
      cases read
      exact attainable
  | cons text texts induction =>
      have next := attainable.intern text
      rw [readFrom] at read
      split at read
      case h_1 => simp at read
      case h_2 later name interned =>
        rw [interned] at next
        split at read
        case isTrue => exact induction next read
        case isFalse => simp at read

theorem decode_attainable {document : Document} {interner : Interner}
    (read : decode document = .ok interner) : interner.Attainable := by
  obtain ⟨texts, _, admitted⟩ := bind_ok_iff.1 read
  cases built : ofStrings texts with
  | error error => simp [built] at admitted
  | ok other =>
      simp only [built, Except.ok.injEq] at admitted
      rw [← admitted]
      exact read_from_attainable .fresh built

end Interner

theorem Document.read_fields_ok {Item : Type} {names : List String} {item : Item}
    {read : Fields → Except DecodeError Item} {document : Document}
    (accepted : document.readFields names read = .ok item) :
    ∃ fields, read fields = .ok item := by
  unfold readFields at accepted
  split at accepted
  case h_1 fields => exact ⟨fields, accepted⟩
  case h_2 items =>
    obtain ⟨other, found, counted⟩ := bind_ok_iff.1 accepted
    split at counted
    case isTrue =>
      cases counted
      exact ⟨names.zip items, found⟩
    case isFalse => simp at counted
  case h_3 => simp at accepted

namespace Forest

theorem add_attainable {draft next : Draft} {field : String × Document}
    (attainable : ∀ names ∈ draft.names, names.Attainable) (added : draft.add field = .ok next) :
    ∀ names ∈ next.names, names.Attainable := by
  unfold Draft.add at added
  split at added
  case h_5 =>
    obtain ⟨names, read, same⟩ := bind_ok_iff.1 added
    cases same
    simpa using Interner.decode_attainable read
  case h_6 =>
    cases added
    exact attainable
  all_goals
    obtain ⟨_, _, same⟩ := bind_ok_iff.1 added
    cases same
    exact attainable

theorem of_document_attainable {home : InternerId} {document : Document} {forest : Forest}
    (read : ofDocument home document = .ok forest) : forest.names.Attainable := by
  obtain ⟨fields, accepted⟩ := Document.read_fields_ok read
  obtain ⟨draft, folded, completed⟩ := bind_ok_iff.1 accepted
  have kept := fold_ok_invariant (fun _ _ _ => add_attainable) (by simp) folded
  unfold Draft.complete at completed
  split at completed
  case h_1 kinds types childLists memberLists names =>
    cases completed
    exact kept names rfl
  case h_2 => simp at completed

end Forest

end ExprTree
