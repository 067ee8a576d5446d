import ExprTree.Key
import ExprTree.Proofs.Equality
import ExprTree.Proofs.Unambiguity

/-!
Trees are lawful keys. Equality of keys is equality of what the trees unfold to, and equal keys have
equal hashes; so a table that looks for a tree only among the keys of its hash finds what comparing
the tree with all earlier ones finds, and gives the same classes, in the order in which they appear.
-/

namespace ExprTree

set_option autoImplicit false

namespace Traced

variable {Result Next : Type}

/-- The computation gives the result, whatever is noted before. -/
def Answers (computation : Traced Result) (result : Result) : Prop :=
  ∀ noted, ∃ later, computation.run.run noted = (.ok result, later)

theorem Answers.events {computation : Traced Result} {result : Result}
    (answers : computation.Answers result) : computation.events.1 = .ok result := by
  obtain ⟨later, ran⟩ := answers #[]
  rw [Traced.events, ran]

theorem answers_pure (result : Result) : Answers (pure result) result := by
  intro noted
  exact ⟨noted, rfl⟩

theorem answers_note (event : Event) : Answers (note event) () := by
  intro noted
  exact ⟨noted.push event, rfl⟩

theorem answers_lift {outcome : Except Refusal Result} {result : Result}
    (answered : outcome = .ok result) : Answers (liftM outcome) result := by
  intro noted
  rw [answered]
  exact ⟨noted, rfl⟩

theorem Answers.bind {first : Traced Result} {next : Result → Traced Next} {item : Result}
    {result : Next} (answers : first.Answers item) (nextAnswers : (next item).Answers result) :
    Answers (first >>= next) result := by
  intro noted
  obtain ⟨between, ran⟩ := answers noted
  obtain ⟨later, ranNext⟩ := nextAnswers between
  refine ⟨later, ?_⟩
  rw [ExceptT.run_bind]
  simp only [StateT.run_bind, ran]
  exact ranNext

end Traced

namespace Tree

variable {left right tree : Tree}

theorem is_equal_answers {equal : Bool} (compared : left.isEqual right = .ok equal) :
    (left.isEqualTraced right).Answers equal := by
  obtain ⟨report, reported, same⟩ := bind_ok_iff.1 compared
  cases same
  have answers : (left.compareTraced right).Answers report := by
    apply (Traced.answers_note _).bind
    apply (Traced.answers_lift reported).bind
    exact (Traced.answers_note _).bind (Traced.answers_pure _)
  exact answers.bind (Traced.answers_pure _)

theorem hash_answers {hash : UInt64} (hashed : tree.hash = .ok hash) :
    (Key.hash tree).Answers (Digest.foldWrites [.word64 hash]) := by
  have noted : tree.hashTraced.Answers hash :=
    (Traced.answers_note _).bind (Traced.answers_lift (map_error_ok_iff.2 hashed))
  exact noted.bind (Traced.answers_pure _)

end Tree

namespace Key

def classOf? (tree : Tree) : List (Tree × Nat) → Except Refusal (Option Nat)
  | [] => .ok none
  | (earlier, number) :: rest => do
      if ← earlier.isEqual tree then return some number else classOf? tree rest

/-- The classes of trees that come after others, which are in `count` classes. Each tree is compared
with all that came before it, and no hash is used. -/
def pairwiseAfter (earlier : List (Tree × Nat)) (count : Nat) :
    List Tree → Except Refusal (List Nat)
  | [] => .ok []
  | tree :: rest => do
      match ← classOf? tree earlier with
      | some number =>
          return number :: (← pairwiseAfter (earlier ++ [(tree, number)]) count rest)
      | none => return count :: (← pairwiseAfter (earlier ++ [(tree, count)]) (count + 1) rest)

def pairwise (trees : List Tree) : Except Refusal (List Nat) := pairwiseAfter [] 0 trees

variable {Meaning : Type} [DecidableEq Meaning]

def seeing (seen : List Meaning) (item : Meaning) : List Meaning :=
  if item ∈ seen then seen else seen ++ [item]

/-- The place of each item among the different ones in the order in which these are first seen. -/
def places (seen : List Meaning) : List Meaning → List Nat
  | [] => []
  | item :: rest => seen.idxOf item :: places (seeing seen item) rest

theorem mem_seeing {seen : List Meaning} {item other : Meaning} :
    other ∈ seeing seen item ↔ other ∈ seen ∨ other = item := by
  rw [seeing]
  split
  case isTrue member =>
    constructor
    · exact .inl
    · rintro (earlier | rfl)
      · exact earlier
      · exact member
  case isFalse => rw [List.mem_append, List.mem_singleton]

theorem prefix_seeing (seen : List Meaning) (item : Meaning) : seen <+: seeing seen item := by
  rw [seeing]
  split
  case isTrue => exact List.prefix_refl _
  case isFalse => exact List.prefix_append _ _

theorem place_kept {seen later : List Meaning} (starts : seen <+: later) {item : Meaning}
    (member : item ∈ seen) : later.idxOf item = seen.idxOf item := by
  obtain ⟨more, rfl⟩ := starts
  exact List.idxOf_append_of_mem member

theorem place_seeing (seen : List Meaning) (item : Meaning) :
    (seeing seen item).idxOf item = seen.idxOf item := by
  rw [seeing]
  split
  case isTrue => rfl
  case isFalse new =>
    rw [List.idxOf_append_of_notMem new, List.idxOf_eq_length new]
    simp

theorem places_eq (seen items : List Meaning) :
    ∃ all, seen <+: all ∧ (∀ item ∈ items, item ∈ all) ∧
      places seen items = items.map all.idxOf := by
  induction items generalizing seen with
  | nil => exact ⟨seen, List.prefix_refl _, by simp, rfl⟩
  | cons item rest induction =>
      obtain ⟨all, starts, covers, same⟩ := induction (seeing seen item)
      have member : item ∈ seeing seen item := mem_seeing.2 (.inr rfl)
      refine ⟨all, (prefix_seeing seen item).trans starts, ?_, ?_⟩
      · exact List.forall_mem_cons.2 ⟨starts.subset member, covers⟩
      · rw [places, same, List.map_cons, place_kept starts member, place_seeing]

theorem same_place_iff {items : List Meaning} {i j : Nat} {left right : Meaning}
    (leftAt : items[i]? = some left) (rightAt : items[j]? = some right) :
    (places [] items)[i]? = (places [] items)[j]? ↔ left = right := by
  obtain ⟨all, _, covers, same⟩ := places_eq [] items
  rw [same, List.getElem?_map, List.getElem?_map, leftAt, rightAt, Option.map_some,
    Option.map_some, Option.some.injEq]
  exact List.idxOf_inj (covers left (List.mem_of_getElem? leftAt))

/-- Trees that have a meaning: equality compares it, and the hash of a key is computed from it. -/
structure Lawful (meaning : Tree → Meaning) (hashOf : Meaning → UInt64) (trees : List Tree) :
    Prop where
  equal : ∀ left ∈ trees, ∀ right ∈ trees,
    left.isEqual right = .ok (decide (meaning left = meaning right))
  hash : ∀ tree ∈ trees, (Key.hash tree).Answers (hashOf (meaning tree))

structure Entry.Of (meaning : Tree → Meaning) (hashOf : Meaning → UInt64) (trees : List Tree)
    (entry : Entry) : Prop where
  known : entry.tree ∈ trees
  hash : entry.hash = hashOf (meaning entry.tree)

theorem range_at {count place : Nat} :
    (List.range count)[place]? = if place < count then some place else none := by
  split
  case isTrue inside => exact List.getElem?_range inside
  case isFalse outside => exact List.getElem?_eq_none (by simpa using outside)

section

variable {meaning : Tree → Meaning} {hashOf : Meaning → UInt64} {trees : List Tree}

/-- Looking only among the keys of a hash finds what looking among all of them would find: others
are not equal to the tree. -/
theorem find_answers (lawful : Lawful meaning hashOf trees) {tree : Tree} (member : tree ∈ trees)
    {table : List Entry} (entries : ∀ entry ∈ table, entry.Of meaning hashOf trees) :
    (find? tree (hashOf (meaning tree)) table).Answers
      (table.map Entry.number)[(table.map fun entry => meaning entry.tree).idxOf (meaning tree)]? := by
  induction table with
  | nil => exact Traced.answers_pure none
  | cons entry rest induction =>
      obtain ⟨⟨known, hashed⟩, entriesRest⟩ := List.forall_mem_cons.1 entries
      have further := induction entriesRest
      have compared := Tree.is_equal_answers (lawful.equal entry.tree known tree member)
      simp only [find?, List.map_cons]
      by_cases same : meaning entry.tree = meaning tree
      · rw [decide_eq_true same] at compared
        rw [hashed, same, if_pos (beq_self_eq_true _), List.idxOf_cons_self]
        exact compared.bind (Traced.answers_pure _)
      · -- Whether the entry is compared or passed over for its hash, the search goes on.
        rw [decide_eq_false same] at compared
        rw [List.idxOf_cons_ne _ same, List.getElem?_cons_succ]
        split
        case isTrue => exact compared.bind further
        case isFalse => exact further

theorem enter_answers (lawful : Lawful meaning hashOf trees) {rest : List Tree}
    (within : ∀ tree ∈ rest, tree ∈ trees) {table : List Entry}
    (entries : ∀ entry ∈ table, entry.Of meaning hashOf trees)
    (numbered : table.map Entry.number = List.range table.length) :
    (enter table rest).Answers
      (places (table.map fun entry => meaning entry.tree) (rest.map meaning)) := by
  induction rest generalizing table with
  | nil => exact Traced.answers_pure []
  | cons tree rest induction =>
      obtain ⟨member, withinRest⟩ := List.forall_mem_cons.1 within
      have found := find_answers lawful member entries
      simp only [enter, List.map_cons, places, seeing]
      apply (lawful.hash tree member).bind
      apply found.bind
      rw [numbered, range_at]
      by_cases known : meaning tree ∈ table.map fun entry => meaning entry.tree
      · have place := List.idxOf_lt_length_of_mem known
        rw [List.length_map] at place
        rw [if_pos place, if_pos known]
        exact (induction withinRest entries numbered).bind (Traced.answers_pure _)
      · have place := List.idxOf_eq_length known
        rw [List.length_map] at place
        rw [if_neg (by omega), if_neg known, place]
        let added : Entry := ⟨hashOf (meaning tree), tree, table.length⟩
        have entriesNext : ∀ entry ∈ table ++ [added], entry.Of meaning hashOf trees := by
          intro entry inside
          rcases List.mem_append.1 inside with earlier | last
          · exact entries entry earlier
          · rw [List.mem_singleton.1 last]
            exact ⟨member, rfl⟩
        have numberedNext :
            (table ++ [added]).map Entry.number = List.range (table ++ [added]).length := by
          rw [List.map_append, numbered, List.length_append, List.length_singleton,
            List.range_succ]
          rfl
        have later := induction withinRest entriesNext numberedNext
        rw [List.map_append] at later
        exact later.bind (Traced.answers_pure _)

/-- The first of the numbered trees that equals the tree has its class, if their numbers are their
places among what was seen. -/
theorem class_of_ok (lawful : Lawful meaning hashOf trees) {tree : Tree} (member : tree ∈ trees)
    {seen : List Meaning} {earlier : List (Tree × Nat)} (known : ∀ pair ∈ earlier, pair.1 ∈ trees)
    (numbered : ∀ pair ∈ earlier, pair.2 = seen.idxOf (meaning pair.1)) :
    classOf? tree earlier =
      .ok (if meaning tree ∈ earlier.map fun pair => meaning pair.1
        then some (seen.idxOf (meaning tree)) else none) := by
  induction earlier with
  | nil => rfl
  | cons pair rest induction =>
      obtain ⟨other, number⟩ := pair
      obtain ⟨knownOther, knownRest⟩ := List.forall_mem_cons.1 known
      obtain ⟨numberedOther, numberedRest⟩ := List.forall_mem_cons.1 numbered
      have compared := lawful.equal other knownOther tree member
      rw [classOf?, List.map_cons]
      by_cases same : meaning other = meaning tree
      · rw [decide_eq_true same] at compared
        simp only at numberedOther
        rw [compared, if_pos (by simp [same]), ← same, ← numberedOther]
        rfl
      · rw [decide_eq_false same] at compared
        rw [compared]
        change classOf? tree rest = _
        rw [induction knownRest numberedRest]
        simp only [List.mem_cons, Ne.symm same, false_or]

/-- The trees that came before are numbered by their places among what was seen, and nothing else was
seen. Each step keeps this: what is seen only grows at its end. -/
theorem pairwise_after_ok (lawful : Lawful meaning hashOf trees) {rest : List Tree}
    (within : ∀ tree ∈ rest, tree ∈ trees) {seen : List Meaning} {earlier : List (Tree × Nat)}
    (known : ∀ pair ∈ earlier, pair.1 ∈ trees)
    (numbered : ∀ pair ∈ earlier, pair.2 = seen.idxOf (meaning pair.1))
    (covers : ∀ item, item ∈ (earlier.map fun pair => meaning pair.1) ↔ item ∈ seen) :
    pairwiseAfter earlier seen.length rest = .ok (places seen (rest.map meaning)) := by
  induction rest generalizing seen earlier with
  | nil => rfl
  | cons tree rest induction =>
      obtain ⟨member, withinRest⟩ := List.forall_mem_cons.1 within
      have place : seen.idxOf (meaning tree) = (seeing seen (meaning tree)).idxOf (meaning tree) :=
        (place_seeing seen (meaning tree)).symm
      have knownNext : ∀ pair ∈ earlier ++ [(tree, seen.idxOf (meaning tree))],
          pair.1 ∈ trees := by
        intro pair inside
        rcases List.mem_append.1 inside with before | last
        · exact known pair before
        · rw [List.mem_singleton.1 last]
          exact member
      have numberedNext : ∀ pair ∈ earlier ++ [(tree, seen.idxOf (meaning tree))],
          pair.2 = (seeing seen (meaning tree)).idxOf (meaning pair.1) := by
        intro pair inside
        rcases List.mem_append.1 inside with before | last
        · have old : meaning pair.1 ∈ seen := (covers _).1 (List.mem_map.2 ⟨pair, before, rfl⟩)
          rw [place_kept (prefix_seeing seen (meaning tree)) old]
          exact numbered pair before
        · rw [List.mem_singleton.1 last]
          exact place
      have coversNext (item : Meaning) :
          item ∈ ((earlier ++ [(tree, seen.idxOf (meaning tree))]).map fun pair =>
            meaning pair.1) ↔ item ∈ seeing seen (meaning tree) := by
        rw [List.map_append, List.mem_append, covers item, mem_seeing, List.map_singleton,
          List.mem_singleton]
      have later := induction withinRest knownNext numberedNext coversNext
      rw [pairwiseAfter, class_of_ok lawful member known numbered, List.map_cons, places]
      by_cases old : meaning tree ∈ earlier.map fun pair => meaning pair.1
      · have stays : seeing seen (meaning tree) = seen := if_pos ((covers _).1 old)
        rw [stays] at later ⊢
        rw [if_pos old]
        change (pairwiseAfter _ _ _ >>= _) = _
        rw [later]
        rfl
      · have new : meaning tree ∉ seen := fun inside => old ((covers _).2 inside)
        have grows : (seeing seen (meaning tree)).length = seen.length + 1 := by
          rw [seeing, if_neg new, List.length_append, List.length_singleton]
        rw [grows, List.idxOf_eq_length new] at later
        rw [if_neg old, List.idxOf_eq_length new]
        change (pairwiseAfter _ _ _ >>= _) = _
        rw [later]
        rfl

theorem classify_answers (lawful : Lawful meaning hashOf trees) :
    (classify trees).Answers (places [] (trees.map meaning)) := by
  have entries : ∀ entry ∈ ([] : List Entry), entry.Of meaning hashOf trees := nofun
  exact enter_answers lawful (fun _ member => member) entries rfl

theorem pairwise_ok (lawful : Lawful meaning hashOf trees) :
    pairwise trees = .ok (places [] (trees.map meaning)) := by
  have known : ∀ pair ∈ ([] : List (Tree × Nat)), pair.1 ∈ trees := nofun
  have numbered : ∀ pair ∈ ([] : List (Tree × Nat)),
      pair.2 = ([] : List Meaning).idxOf (meaning pair.1) := nofun
  exact pairwise_after_ok lawful (fun _ member => member) known numbered fun _ => Iff.rfl

end

def unfoldedHash : Except Fault (Option Term) → UInt64
  | .ok term => Digest.foldWrites [.word64 (Digest.foldWrites (termWrites term))]
  | .error _ => 0

variable {workspace : Workspace} {trees : List Tree}

open Classical in
theorem lawful_of_held (reachable : workspace.Reachable)
    (held : ∀ tree ∈ trees, ∃ handle root, workspace.tree? handle root = some tree)
    (sound : ∀ tree ∈ trees, tree.isAbsent ∨ tree.WellFormed) :
    Lawful Tree.unfold unfoldedHash trees where
  equal := by
    intro left leftMember right rightMember
    obtain ⟨leftHandle, leftRoot, leftHeld⟩ := held left leftMember
    obtain ⟨rightHandle, rightRoot, rightHeld⟩ := held right rightMember
    obtain ⟨leftValid, leftTyped⟩ := Tree.readable_of_absent_or (sound left leftMember)
    obtain ⟨rightValid, rightTyped⟩ := Tree.readable_of_absent_or (sound right rightMember)
    obtain ⟨report, leftTerm, rightTerm, compared, leftUnfolded, rightUnfolded, exactly⟩ :=
      Tree.compare_spec leftValid rightValid leftTyped rightTyped
    have equal := Tree.is_equal_of_compare compared
    rw [equal, leftUnfolded, rightUnfolded, Except.ok.injEq, Bool.eq_iff_iff, decide_eq_true_iff,
      Except.ok.injEq, ← exactly (reachable.compatible leftHeld rightHeld)]
    exact report.is_equal_iff
  hash := by
    intro tree member
    obtain ⟨valid, typed⟩ := Tree.readable_of_absent_or (sound tree member)
    obtain ⟨term, unfolded, hashed⟩ := Tree.hash_spec valid typed
    rw [unfolded]
    exact Tree.hash_answers hashed

/-- Trees are lawful keys, whichever arenas hold them. Equality is an equivalence; and entering the
trees into a table of hashes gives the classes that comparing in pairs gives, in which two trees are
together exactly if they are equal. -/
theorem classify_eq_pairwise (reachable : workspace.Reachable)
    (held : ∀ tree ∈ trees, ∃ handle root, workspace.tree? handle root = some tree)
    (sound : ∀ tree ∈ trees, tree.isAbsent ∨ tree.WellFormed) :
    (∀ tree ∈ trees, tree.isEqual tree = .ok true) ∧
      (∀ left ∈ trees, ∀ right ∈ trees, ∃ equal,
        left.isEqual right = .ok equal ∧ right.isEqual left = .ok equal) ∧
      (∀ first ∈ trees, ∀ second ∈ trees, ∀ third ∈ trees, first.isEqual second = .ok true →
        second.isEqual third = .ok true → first.isEqual third = .ok true) ∧
      ∃ classes, (classify trees).events.1 = .ok classes ∧ pairwise trees = .ok classes ∧
        classes.length = trees.length ∧
        ∀ (i j : Nat) (left right : Tree), trees[i]? = some left → trees[j]? = some right →
          (classes[i]? = classes[j]? ↔ left.isEqual right = .ok true) := by
  classical
  have lawful := lawful_of_held reachable held sound
  have equal_iff {left right : Tree} (leftMember : left ∈ trees) (rightMember : right ∈ trees) :
      left.isEqual right = .ok true ↔ left.unfold = right.unfold := by
    rw [lawful.equal left leftMember right rightMember, Except.ok.injEq, decide_eq_true_iff]
  refine ⟨?reflexive, ?symmetric, ?transitive, places [] (trees.map Tree.unfold),
    (classify_answers lawful).events, pairwise_ok lawful, ?length, ?same⟩
  case reflexive =>
    intro tree member
    exact (equal_iff member member).2 rfl
  case symmetric =>
    intro left leftMember right rightMember
    refine ⟨_, lawful.equal left leftMember right rightMember, ?_⟩
    rw [lawful.equal right rightMember left leftMember]
    simp only [eq_comm]
  case transitive =>
    intro first firstMember second secondMember third thirdMember same further
    rw [equal_iff firstMember secondMember] at same
    rw [equal_iff secondMember thirdMember] at further
    exact (equal_iff firstMember thirdMember).2 (same.trans further)
  case length =>
    obtain ⟨all, _, _, same⟩ := places_eq [] (trees.map Tree.unfold)
    rw [same, List.length_map, List.length_map]
  case same =>
    intro i j left right leftAt rightAt
    rw [equal_iff (List.mem_of_getElem? leftAt) (List.mem_of_getElem? rightAt)]
    apply same_place_iff
    · rw [List.getElem?_map, leftAt]
      rfl
    · rw [List.getElem?_map, rightAt]
      rfl

/-- The two arenas, and a copy of the first one that shares its interner. -/
def threeArenas : Workspace := twoArenas.performAll [.copyArena ⟨0⟩]

theorem three_arenas_held :
    ∃ sum ∈ threeArenas.tree? ⟨0⟩ ⟨2⟩, ∃ operand ∈ threeArenas.tree? ⟨1⟩ ⟨0⟩,
      ∃ other ∈ threeArenas.tree? ⟨1⟩ ⟨2⟩, ∃ copy ∈ threeArenas.tree? ⟨2⟩ ⟨2⟩,
      ∃ absent ∈ threeArenas.tree? ⟨1⟩ .absent, sum.WellFormed ∧ operand.WellFormed ∧
        other.WellFormed ∧ copy.WellFormed ∧ absent.isAbsent ∧
        (classify [sum, operand, absent, other, copy]).events.1 = .ok [0, 1, 2, 0, 0] := by
  decide +kernel

theorem classify_eq_pairwise_three_arenas :
    ∃ sum operand absent other copy, threeArenas.Reachable ∧
      threeArenas.tree? ⟨0⟩ ⟨2⟩ = some sum ∧ threeArenas.tree? ⟨1⟩ ⟨0⟩ = some operand ∧
      threeArenas.tree? ⟨1⟩ .absent = some absent ∧ threeArenas.tree? ⟨1⟩ ⟨2⟩ = some other ∧
      threeArenas.tree? ⟨2⟩ ⟨2⟩ = some copy ∧
      pairwise [sum, operand, absent, other, copy] = .ok [0, 1, 2, 0, 0] ∧
      other.isEqual copy = .ok true ∧ sum.isEqual operand ≠ .ok true := by
  obtain ⟨sum, sumHeld, operand, operandHeld, other, otherHeld, copy, copyHeld, absent, absentHeld,
    sumSound, operandSound, otherSound, copySound, isAbsent, entered⟩ := three_arenas_held
  have reachable : threeArenas.Reachable := two_arenas_reachable.perform_all _
  have held : ∀ tree ∈ [sum, operand, absent, other, copy],
      ∃ handle root, threeArenas.tree? handle root = some tree := by
    simp only [List.forall_mem_cons, List.not_mem_nil, false_implies, implies_true, and_true]
    exact ⟨⟨_, _, sumHeld⟩, ⟨_, _, operandHeld⟩, ⟨_, _, absentHeld⟩, ⟨_, _, otherHeld⟩,
      ⟨_, _, copyHeld⟩⟩
  have sound : ∀ tree ∈ [sum, operand, absent, other, copy],
      tree.isAbsent ∨ tree.WellFormed := by
    simp only [List.forall_mem_cons, List.not_mem_nil, false_implies, implies_true, and_true]
    exact ⟨.inr sumSound, .inr operandSound, .inl isAbsent, .inr otherSound, .inr copySound⟩
  obtain ⟨_, _, _, classes, enteredToo, paired, _, same⟩ :=
    classify_eq_pairwise reachable held sound
  rw [entered, Except.ok.injEq] at enteredToo
  subst enteredToo
  refine ⟨sum, operand, absent, other, copy, reachable, sumHeld, operandHeld, absentHeld, otherHeld,
    copyHeld, paired, (same 3 4 other copy rfl rfl).1 rfl, ?_⟩
  intro equal
  have together := (same 0 1 sum operand rfl rfl).2 equal
  simp at together

end Key

end ExprTree
