import ExprTree.Proofs.Codec
import ExprTree.Proofs.Naming
import Mathlib.Data.List.Nodup

/-!
Which lists of strings are read as an interner: the lists of distinct strings that start with the
empty string, and the empty list, which stands for a fresh interner. Reading does not look for this.
It interns one string after the other, where the empty string is known from the start, and asks each
time whether the name is the position. The interner holds just what was read, and so the name is the
position unless the string does not fit behind those before it.
-/

namespace ExprTree

set_option autoImplicit false

namespace Interner

/-- The strings of the interner that a list is read as. -/
def contentOf (texts : List String) : List String :=
  if texts = [] then [""] else texts

/-- The string at the position is the first one and not empty, or it equals an earlier one. -/
def Misplaced (texts : List String) (position : Nat) (text : String) : Prop :=
  texts[position]? = some text ∧
    (position = 0 ∧ text ≠ "" ∨ ∃ earlier < position, texts[earlier]? = some text)

def PlacedBefore (texts : List String) (position : Nat) : Prop :=
  ∀ earlier < position, ∀ text, ¬Misplaced texts earlier text

def Misfit (before : List String) (text : String) : Prop :=
  before = [] ∧ text ≠ "" ∨ text ∈ before

structure HasRead (interner : Interner) (texts : List String) : Prop where
  attainable : interner.Attainable
  strings : interner.strings.toList = contentOf texts

/-- How reading a list ends. An interner has no more strings than its capacity, so that a longer
list is refused even if no string is misplaced. -/
inductive ReadsAs (texts : List String) : Except ReadError Interner → Prop where
  | read {interner : Interner} (placed : PlacedBefore texts texts.length)
      (few : texts.length ≤ capacity) (hasRead : interner.HasRead texts) :
      ReadsAs texts (.ok interner)
  | repeated {position : Nat} {text : String} (misplaced : Misplaced texts position text)
      (first : PlacedBefore texts position) (within : position ≤ capacity) :
      ReadsAs texts (.error (.repeated text position))
  | full (many : capacity < texts.length) (placed : PlacedBefore texts (capacity + 1)) :
      ReadsAs texts (.error (.full (.overflow capacity)))

variable {interner : Interner} {before rest texts : List String} {text : String}

namespace HasRead

theorem start : fresh.HasRead [] := ⟨.fresh, rfl⟩

theorem size (hasRead : interner.HasRead before) : interner.size = (contentOf before).length := by
  rw [← hasRead.strings, Array.length_toList, Interner.size]

theorem mem_iff (hasRead : interner.HasRead before) :
    text ∈ interner.strings ↔ text ∈ contentOf before := by
  rw [← hasRead.strings, Array.mem_toList_iff]

theorem length_le (hasRead : interner.HasRead before) : before.length ≤ capacity := by
  refine Nat.le_trans ?_ hasRead.attainable.bounded
  rw [hasRead.size]
  cases before <;> simp [contentOf]

end HasRead

theorem content_of_filled (filled : before ≠ []) : contentOf before = before := if_neg filled

/-! ### One string -/

/-- What interning comes to, told by the strings that are there. -/
theorem Attainable.intern_outcome (attainable : interner.Attainable) (text : String) :
    (text ∈ interner.strings ∧ ∃ name, name.index < interner.size ∧
      interner.intern text = (interner, .ok name)) ∨
    (text ∉ interner.strings ∧ ∃ grown name, name.index = interner.size ∧ grown.Attainable ∧
      grown.strings = interner.strings.push text ∧ interner.intern text = (grown, .ok name)) ∨
    (text ∉ interner.strings ∧ interner.size = capacity ∧
      interner.intern text = (interner, .error (.overflow capacity))) := by
  by_cases member : text ∈ interner.strings
  · obtain ⟨name, found⟩ := attainable.named_of_mem member
    have inside := (Array.getElem?_eq_some_iff.1 found).1
    exact .inl ⟨member, name, inside, intern_known attainable.consistent found⟩
  · rcases interner.intern_cases text with ⟨name, known, _⟩ | ⟨_, room, new⟩ | ⟨_, full, refused⟩
    · rw [attainable.unnamed_of_not_mem member] at known
      cases known
    · have grown := attainable.intern text
      rw [new] at grown
      exact .inr (.inl ⟨member, _, _, next_index room, grown, rfl, new⟩)
    · have size : interner.size = capacity :=
        Nat.le_antisymm attainable.bounded (Nat.le_of_not_lt full)
      rw [size] at refused
      exact .inr (.inr ⟨member, size, refused⟩)

/-- A string that fits gets the name of its position, and is read with the others. -/
theorem HasRead.intern_fitting (hasRead : interner.HasRead before) (fits : ¬Misfit before text) :
    (∃ grown name, name.index = before.length ∧ grown.HasRead (before ++ [text]) ∧
      interner.intern text = (grown, .ok name)) ∨
    (before.length = capacity ∧
      interner.intern text = (interner, .error (.overflow capacity))) := by
  obtain ⟨first, new⟩ := not_or.1 fits
  have size := hasRead.size
  by_cases start : before = []
  · -- The empty string is there from the start.
    subst start
    have empty : text = "" := by simpa using first
    subst empty
    have known : "" ∈ interner.strings := hasRead.mem_iff.2 (by simp [contentOf])
    rcases hasRead.attainable.intern_outcome "" with
      ⟨_, name, inside, interned⟩ | ⟨new, _⟩ | ⟨new, _⟩
    · rw [size] at inside
      exact .inl ⟨interner, name, Nat.lt_one_iff.1 inside, ⟨hasRead.attainable, hasRead.strings⟩,
        interned⟩
    · exact absurd known new
    · exact absurd known new
  · rw [content_of_filled start] at size
    rcases hasRead.attainable.intern_outcome text with
      ⟨member, _⟩ | ⟨_, grown, name, last, attainable, pushed, interned⟩ | ⟨_, full, refused⟩
    · rw [hasRead.mem_iff, content_of_filled start] at member
      exact absurd member new
    · have strings : grown.strings.toList = contentOf (before ++ [text]) := by
        rw [pushed, Array.toList_push, hasRead.strings, content_of_filled start,
          content_of_filled (by simp)]
      exact .inl ⟨grown, name, last.trans size, ⟨attainable, strings⟩, interned⟩
    · exact .inr ⟨size.symm.trans full, refused⟩

theorem HasRead.intern_misfit (hasRead : interner.HasRead before) (misfit : Misfit before text) :
    ∃ grown name, name.index ≠ before.length ∧ interner.intern text = (grown, .ok name) := by
  have size := hasRead.size
  rcases misfit with ⟨rfl, filled⟩ | repeated
  · have new : text ∉ interner.strings := by
      rw [hasRead.mem_iff]
      simpa [contentOf] using filled
    have one : interner.size = 1 := size
    rcases hasRead.attainable.intern_outcome text with
      ⟨member, _⟩ | ⟨_, grown, name, last, _, _, interned⟩ | ⟨_, full, _⟩
    · exact absurd member new
    · refine ⟨grown, name, ?_, interned⟩
      rw [last, one]
      exact Nat.one_ne_zero
    · rw [one, capacity] at full
      cases full
  · have content := content_of_filled (List.ne_nil_of_mem repeated)
    have known : text ∈ interner.strings := by
      rw [hasRead.mem_iff, content]
      exact repeated
    rcases hasRead.attainable.intern_outcome text with
      ⟨_, name, inside, interned⟩ | ⟨new, _⟩ | ⟨new, _⟩
    · rw [size, content] at inside
      exact ⟨interner, name, Nat.ne_of_lt inside, interned⟩
    · exact absurd known new
    · exact absurd known new

/-! ### Lists of strings -/

theorem misplaced_next_iff :
    Misplaced (before ++ text :: rest) before.length text ↔ Misfit before text := by
  have found : (before ++ text :: rest)[before.length]? = some text := by simp
  have earlier : (∃ earlier < before.length, (before ++ text :: rest)[earlier]? = some text) ↔
      text ∈ before := by
    rw [List.mem_iff_getElem?]
    constructor
    · intro ⟨position, inside, there⟩
      rw [List.getElem?_append_left inside] at there
      exact ⟨position, there⟩
    · intro ⟨position, there⟩
      have inside := (List.getElem?_eq_some_iff.1 there).1
      exact ⟨position, inside, by rw [List.getElem?_append_left inside, there]⟩
  rw [Misplaced, earlier, List.length_eq_zero_iff]
  exact and_iff_right found

theorem placed_next (placed : PlacedBefore (before ++ text :: rest) before.length)
    (fits : ¬Misfit before text) : PlacedBefore (before ++ text :: rest) (before.length + 1) := by
  intro earlier sooner other misplaced
  rcases Nat.lt_or_eq_of_le (Nat.le_of_lt_succ sooner) with behind | rfl
  · exact placed earlier behind other misplaced
  · have same : text = other := by simpa using misplaced.1
    rw [← same, misplaced_next_iff] at misplaced
    exact fits misplaced

/-- Reading the rest of a list in which nothing was misplaced so far. The induction is on the rest;
the interner that it starts with has read what came before. -/
theorem HasRead.read_from_ends (hasRead : interner.HasRead before)
    (placed : PlacedBefore (before ++ rest) before.length) :
    ReadsAs (before ++ rest) (interner.readFrom before.length rest) := by
  induction rest generalizing interner before with
  | nil =>
      rw [List.append_nil] at placed ⊢
      exact .read placed hasRead.length_le hasRead
  | cons text rest induction =>
      rw [readFrom]
      by_cases misfit : Misfit before text
      · obtain ⟨grown, name, other, interned⟩ := hasRead.intern_misfit misfit
        simp only [interned, if_neg other]
        exact .repeated (misplaced_next_iff.2 misfit) placed hasRead.length_le
      · have placedNext := placed_next placed misfit
        rcases hasRead.intern_fitting misfit with
          ⟨grown, name, own, hasReadNext, interned⟩ | ⟨full, refused⟩
        · simp only [interned, if_pos own]
          have length : (before ++ [text]).length = before.length + 1 := by simp
          rw [List.append_cons, ← length] at placedNext ⊢
          exact induction hasReadNext placedNext
        · simp only [refused]
          rw [full] at placedNext
          refine .full ?_ placedNext
          rw [List.length_append, List.length_cons, full]
          omega

theorem of_strings_ends (texts : List String) : ReadsAs texts (ofStrings texts) :=
  HasRead.start.read_from_ends nofun

theorem placed_iff :
    PlacedBefore texts texts.length ↔ texts = [] ∨ texts[0]? = some "" ∧ texts.Nodup := by
  rw [List.nodup_iff_getElem?_ne_getElem?]
  constructor
  · intro placed
    cases texts with
    | nil => exact .inl rfl
    | cons first rest =>
        refine .inr ⟨?_, ?_⟩
        · by_contra filled
          exact placed 0 (by simp) first ⟨rfl, .inl ⟨rfl, by simpa using filled⟩⟩
        · intro earlier later sooner inside same
          have there := List.getElem?_eq_getElem inside
          exact placed later inside _ ⟨there, .inr ⟨earlier, sooner, same.trans there⟩⟩
  · rintro (rfl | ⟨first, distinct⟩)
    · exact nofun
    · rintro position inside text ⟨there, ⟨rfl, filled⟩ | ⟨earlier, sooner, same⟩⟩
      · rw [there] at first
        exact filled (Option.some.inj first)
      · exact distinct earlier position sooner inside (same.trans there.symm)

/-- If no string is misplaced, it depends on the number of strings alone how reading ends. -/
theorem of_strings_placed (placed : PlacedBefore texts texts.length) :
    (texts.length ≤ capacity ∧ ∃ interner, ofStrings texts = .ok interner) ∨
    (capacity < texts.length ∧ ofStrings texts = .error (.full (.overflow capacity))) := by
  have ends := of_strings_ends texts
  generalize ofStrings texts = result at ends ⊢
  cases ends with
  | read _ few _ => exact .inl ⟨few, _, rfl⟩
  | repeated misplaced _ _ =>
      have inside := (List.getElem?_eq_some_iff.1 misplaced.1).1
      exact absurd misplaced (placed _ inside _)
  | full many _ => exact .inr ⟨many, rfl⟩

theorem of_strings_ok_iff :
    (∃ interner, ofStrings texts = .ok interner) ↔
      (texts = [] ∨ texts[0]? = some "" ∧ texts.Nodup) ∧ texts.length ≤ capacity := by
  rw [← placed_iff]
  constructor
  · intro ⟨interner, read⟩
    have ends := of_strings_ends texts
    rw [read] at ends
    cases ends with
    | read placed few _ => exact ⟨placed, few⟩
  · intro ⟨placed, few⟩
    rcases of_strings_placed placed with ⟨_, read⟩ | ⟨many, _⟩
    · exact read
    · exact absurd few (Nat.not_le_of_lt many)

theorem of_strings_ok (read : ofStrings texts = .ok interner) : interner.HasRead texts := by
  have ends := of_strings_ends texts
  rw [read] at ends
  cases ends with
  | read _ _ hasRead => exact hasRead

theorem decode_texts (texts : List String) :
    decode (encode texts) = (ofStrings texts).mapError fun error => .rejected error.message := by
  change ((decode (encode texts) : Except DecodeError (List String)) >>= _) = _
  rw [decode_encode]
  simp only [bind, Except.bind]
  cases ofStrings texts <;> rfl

theorem Attainable.intern_own (attainable : interner.Attainable) {position : Nat}
    (found : interner.strings[position]? = some text) :
    ∃ name, name.index = position ∧ interner.intern text = (interner, .ok name) := by
  obtain ⟨name, index, known⟩ := attainable.name_at found
  exact ⟨name, index, intern_known attainable.consistent known⟩

/-- A list of strings is read as an interner exactly if it is empty or starts with the empty string
and has no string twice, and is no longer than an interner can be. The interner has just these
strings, under their positions, and is written as the same list. If the list is refused, the first
string that is misplaced is named with its position, unless the interner was full before that. -/
theorem texts_read_as_interner (texts : List String) :
    ((∃ interner : Interner, decode (encode texts) = .ok interner) ↔
      (texts = [] ∨ texts[0]? = some "" ∧ texts.Nodup) ∧ texts.length ≤ capacity) ∧
    (∀ interner : Interner, decode (encode texts) = .ok interner →
      interner.strings.toList = contentOf texts ∧ encode interner = encode (contentOf texts) ∧
      ∀ (position : Nat) text, (contentOf texts)[position]? = some text →
        ∃ name, name.index = position ∧ interner.intern text = (interner, .ok name)) ∧
    ∀ error, (decode (encode texts) : Except DecodeError Interner) = .error error →
      (∃ position text, Misplaced texts position text ∧ PlacedBefore texts position ∧
        position ≤ capacity ∧ error = .rejected ("interned string " ++ inspect text ++
          " at position " ++ inspect position ++ " is not unique")) ∨
      (capacity < texts.length ∧ PlacedBefore texts (capacity + 1) ∧
        error = .rejected (InternError.overflow capacity).message) := by
  rw [decode_texts]
  simp only [map_error_ok_iff]
  refine ⟨of_strings_ok_iff, ?read, ?refused⟩
  case read =>
    intro interner read
    have hasRead := of_strings_ok read
    refine ⟨hasRead.strings, congrArg encode hasRead.strings, fun position text found => ?_⟩
    rw [← hasRead.strings, Array.getElem?_toList] at found
    exact hasRead.attainable.intern_own found
  case refused =>
    intro error refused
    have ends := of_strings_ends texts
    generalize ofStrings texts = result at ends refused
    cases ends with
    | read => cases refused
    | repeated misplaced first within =>
        cases refused
        exact .inl ⟨_, _, misplaced, first, within, rfl⟩
    | full many placed =>
        cases refused
        exact .inr ⟨many, placed, rfl⟩

/-- Distinct strings from the empty one on, one more than an interner can hold. -/
def surplus : List String :=
  (List.range (capacity + 1)).map fun length => String.ofList (List.replicate length 'a')

theorem length_surplus : surplus.length = capacity + 1 := by
  rw [surplus, List.length_map, List.length_range]

theorem surplus_start : surplus[0]? = some "" := by
  rw [surplus, List.getElem?_map, List.getElem?_range (Nat.succ_pos capacity)]
  rfl

theorem surplus_distinct : surplus.Nodup := by
  apply List.Nodup.map _ List.nodup_range
  intro length other same
  have letters := congrArg List.length (String.ofList_injective same)
  simpa only [List.length_replicate] using letters

/-- Strings can be too many to be read though nothing else is wrong with them; and the empty list,
which is read, is not written again. -/
theorem surplus_refused :
    (surplus[0]? = some "" ∧ surplus.Nodup ∧
      (decode (encode surplus) : Except DecodeError Interner) =
        .error (.rejected (InternError.overflow capacity).message)) ∧
      (decode (encode ([] : List String)) : Except DecodeError Interner) = .ok fresh ∧
      encode fresh ≠ encode ([] : List String) := by
  have placed := placed_iff.2 (.inr ⟨surplus_start, surplus_distinct⟩)
  have refused : ofStrings surplus = .error (.full (.overflow capacity)) := by
    rcases of_strings_placed placed with ⟨few, _⟩ | ⟨_, refused⟩
    · rw [length_surplus] at few
      exact absurd few (Nat.not_succ_le_self capacity)
    · exact refused
  refine ⟨⟨surplus_start, surplus_distinct, ?_⟩, ?_, ?_⟩
  · rw [decode_texts, refused]
    rfl
  · rw [decode_texts]
    rfl
  · nofun

end Interner

end ExprTree
