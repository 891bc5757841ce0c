import ErrorTables.Group

/-!
What a run has done: the inputs that were processed, the groups that were found, the headers that
were written and the lines that were listed.
-/

namespace ErrorTables.Run

/-- A group that was found in a source. -/
structure GroupRecord where
  source : String
  name : String
  base : Int
  count : Int
  firstCode : Int
  lastCode : Int
  deriving DecidableEq, Repr

/-- The record of a group that was read from a source. -/
def GroupRecord.ofGroup (source : String) (group : Group) : GroupRecord where
  source := source
  name := group.name
  base := group.base
  count := group.count
  firstCode := group.firstCode
  lastCode := group.lastCode

/-- The account of a run. -/
structure Summary where
  files : List String := []
  groups : List GroupRecord := []
  written : List String := []
  listPath : Option String := none
  listed : Int := 0
  deriving DecidableEq, Repr

/-- The number of entries of all groups. -/
def Summary.entries (summary : Summary) : Int :=
  summary.groups.foldr (fun group number => group.count + number) 0

end ErrorTables.Run
