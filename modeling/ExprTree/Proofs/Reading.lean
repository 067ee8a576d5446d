import ExprTree.Proofs.Spelling

/-!
All that is ever read of a tree, as a list: the nodes in pre-order, each with what it says and how
many children it has. A tree that passes validation and whose root has a type has such readings;
they list its nodes, and they spell what it unfolds to.
-/

namespace ExprTree

set_option autoImplicit false

/-- A node as a walk meets it, with what it adds to the spelling of the tree. -/
structure Reading where
  id : NodeId
  label : Label
  /-- How many children it has. -/
  count : Nat
deriving DecidableEq

namespace Reading

def entry (reading : Reading) : Label × Nat := (reading.label, reading.count)

def profile (reading : Reading) : Profile := reading.label.profile reading.count

@[simp]
theorem profile_kind (reading : Reading) : reading.profile.kind = reading.label.kind := rfl

@[simp]
theorem profile_type (reading : Reading) : reading.profile.type = reading.label.type := rfl

def mismatch? (left right : Reading) : Option Mismatch :=
  left.profile.mismatch? right.profile left.id right.id

def Fits (reading : Reading) : Prop := reading.label.Fits reading.count

theorem mismatch_none_iff {left right : Reading} (leftFits : left.Fits) (rightFits : right.Fits) :
    left.mismatch? right = none ↔ left.entry = right.entry := by
  rw [mismatch?, profile, profile, Label.mismatch_none_iff leftFits rightFits, entry, entry,
    Prod.mk.injEq]

theorem length_of_entries {lefts rights : List Reading}
    (same : lefts.map entry = rights.map entry) : lefts.length = rights.length := by
  rw [← List.length_map entry, same, List.length_map]

end Reading

namespace Forest

/-- The reading is what can be read of its node. -/
def Reads (forest : Forest) (reading : Reading) : Prop :=
  forest.Readable reading.id ∧ forest.entry reading.id = .ok reading.entry

theorem Reads.known {forest : Forest} {reading : Reading} (read : forest.Reads reading) :
    forest.label reading.id = .ok reading.label ∧ reading.Fits ∧
      forest.profile reading.id = .ok reading.profile := by
  obtain ⟨readable, entered⟩ := read
  obtain ⟨label, count, labelled, found, fits, profiled⟩ := readable.entry
  rw [found, Reading.entry, Except.ok.injEq, Prod.mk.injEq] at entered
  obtain ⟨rfl, rfl⟩ := entered
  exact ⟨labelled, fits, profiled⟩

theorem Reads.fits {forest : Forest} {reading : Reading} (read : forest.Reads reading) :
    reading.Fits :=
  read.known.2.1

theorem Reads.same {forest : Forest} {reading other : Reading} (read : forest.Reads reading)
    (otherRead : forest.Reads other) (same : reading.id = other.id) : reading = other := by
  have entries : reading.entry = other.entry := by
    have entered := read.2
    rw [same, otherRead.2] at entered
    exact (Except.ok.inj entered).symm
  obtain ⟨id, label, count⟩ := reading
  obtain ⟨otherId, otherLabel, otherCount⟩ := other
  rw [Reading.entry, Reading.entry, Prod.mk.injEq] at entries
  rw [Reading.mk.injEq]
  exact ⟨same, entries⟩

theorem readings_of_spells {forest : Forest} {ids : List NodeId} {entries : List (Label × Nat)}
    (readable : ∀ id ∈ ids, forest.Readable id) (spelled : forest.Spells ids entries) :
    ∃ readings : List Reading, readings.map Reading.id = ids ∧
      readings.map Reading.entry = entries ∧ ∀ reading ∈ readings, forest.Reads reading := by
  induction spelled with
  | nil => exact ⟨[], rfl, rfl, by simp⟩
  | @cons id entry ids entries entered later induction =>
      obtain ⟨readings, listed, spelled, read⟩ :=
        induction fun id member => readable id (by simp [member])
      have first : forest.Reads ⟨id, entry.1, entry.2⟩ := ⟨readable id (by simp), entered⟩
      refine ⟨⟨id, entry.1, entry.2⟩ :: readings, ?_, ?_, ?_⟩
      · rw [List.map_cons, listed]
      · rw [List.map_cons, spelled]
        rfl
      · exact List.forall_mem_cons.2 ⟨first, read⟩

end Forest

namespace Tree

structure Reads (tree : Tree) (readings : List Reading) : Prop where
  met : tree.sequence = .ok (readings.map Reading.id)
  read : ∀ reading ∈ readings, tree.forest.Reads reading

theorem Reads.fits {tree : Tree} {readings : List Reading} (reads : tree.Reads readings) :
    ∀ reading ∈ readings, reading.Fits :=
  fun reading member => (reads.read reading member).fits

theorem reads_of_validate {tree : Tree} (valid : tree.validate = .ok ()) (typed : tree.Typed) :
    ∃ readings term, tree.Reads readings ∧ tree.unfold = .ok term ∧
      readings.map Reading.entry = spelling? term := by
  obtain ⟨ids, term, met, unfolded, readable, spelled⟩ := spelled_of_validate valid typed
  obtain ⟨readings, rfl, entered, read⟩ := Forest.readings_of_spells readable spelled
  exact ⟨readings, term, ⟨met, read⟩, unfolded, entered⟩

theorem Reads.unique {tree : Tree} {readings others : List Reading} (reads : tree.Reads readings)
    (otherReads : tree.Reads others) : readings = others := by
  have each {listed : List Reading} (read : ∀ reading ∈ listed, tree.forest.Reads reading) :
      List.Forall₂ (fun id reading => reading.id = id ∧ tree.forest.Reads reading)
        (listed.map Reading.id) listed := by
    rw [List.forall₂_map_left_iff, List.forall₂_same]
    exact fun reading member => ⟨rfl, read reading member⟩
  have ids : readings.map Reading.id = others.map Reading.id :=
    Except.ok.inj (reads.met.symm.trans otherReads.met)
  have otherEach := each otherReads.read
  rw [← ids] at otherEach
  apply results_unique (each reads.read) otherEach
  intro id reading other found otherFound
  exact found.2.same otherFound.2 (found.1.trans otherFound.1.symm)

theorem Reads.typed {tree : Tree} {readings : List Reading} (reads : tree.Reads readings) :
    tree.Typed := by
  intro present
  obtain ⟨rest, listed⟩ := sequence_head present reads.met
  have member : tree.root ∈ readings.map Reading.id := by simp [listed]
  obtain ⟨reading, inside, same⟩ := List.mem_map.1 member
  rw [← same]
  exact (reads.read reading inside).1.2

theorem Reads.listing {tree : Tree} {readings : List Reading} (reads : tree.Reads readings) :
    tree.listing = .ok (readings.map Reading.id).toArray :=
  listing_of_sequence reads.met

end Tree

end ExprTree
