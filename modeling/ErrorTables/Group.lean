/-!
Error tables: a group of entries with a base, and the codes that the entries receive by their
position.
-/

namespace ErrorTables

/-- An error by its tag and its message; `line` is where it was read. -/
structure Entry where
  tag : String
  message : String := ""
  line : Nat := 0
  deriving DecidableEq, Repr

/-- A named table of errors whose codes count up from `base`. The table was read from `source`, if
that is known, and opens at `line`. -/
structure Group where
  name : String
  base : Int
  label : String := ""
  qualifier : Option String := none
  entries : List Entry := []
  source : Option String := none
  line : Nat := 0
  deriving DecidableEq, Repr

/-- An entry with its position in the table and its code. -/
structure CodedEntry where
  tag : String
  message : String
  offset : Nat
  code : Int
  deriving DecidableEq, Repr

namespace Group

/-- The number of entries. -/
def count (group : Group) : Nat :=
  group.entries.length

/-- The entries numbered from zero, each with the code at its distance from the base. -/
def coded (group : Group) : List CodedEntry :=
  group.entries.mapIdx fun offset entry =>
    ⟨entry.tag, entry.message, offset, group.base + offset⟩

/-- The code of the first entry. -/
def firstCode (group : Group) : Int :=
  group.base

/-- The code of the last entry; in an empty table, the number before the base. -/
def lastCode (group : Group) : Int :=
  group.base + group.count - 1

@[simp]
theorem length_coded (group : Group) : group.coded.length = group.count := by
  simp [coded, count]

end Group

end ErrorTables
