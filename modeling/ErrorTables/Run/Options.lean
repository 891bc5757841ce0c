import ErrorTables.FileSystem.Path
import ErrorTables.Header.Artifact

/-!
What a run is asked to do: which headers to generate, or to write a listing instead, and where the
results go.
-/

namespace ErrorTables.Run

open Header

/-- The choices of a run. A path for the listing excludes all headers. -/
structure Options where
  messages : Bool := false
  info : Bool := false
  enumeration : Bool := false
  macros : Bool := false
  listPath : Option Path := none
  outputDirectory : Path := {}
  deriving DecidableEq, Repr

/-- Why a run is refused before it starts. -/
inductive UsageError where
  | nothingSelected
  | noInputs
  deriving DecidableEq, Repr

/-- The wording of a refusal. -/
def UsageError.message : UsageError → String
  | .nothingSelected => "You must specify at least one of -m, -p, -e, -d or -list"
  | .noInputs => "No input files given"

namespace Options

/-- The run writes a listing. -/
def isListing (options : Options) : Bool :=
  options.listPath.isSome

/-- The header is among the chosen ones. The table of symbols comes with the table of
information. -/
def selects (options : Options) : Artifact → Bool
  | .messages => options.messages
  | .info => options.info
  | .symbols => options.info
  | .enumeration => options.enumeration
  | .macros => options.macros

/-- The headers to generate, in the order in which they are written. -/
def artifacts (options : Options) : List Artifact :=
  if options.isListing then [] else Artifact.all.filter options.selects

/-- There must be something to generate. -/
def validate (options : Options) : Except UsageError Unit :=
  if options.isListing || Artifact.all.any options.selects then .ok ()
  else .error .nothingSelected

end Options

end ErrorTables.Run
