import ErrorTables.Fault
import ErrorTables.Header.Banner
import ErrorTables.Text.Lines
import ErrorTables.Value

/-!
The settings of the generator and how they are taken from a mapping. Each setting has a default;
values of any kind are taken by their text, and unknown keys are refused.
-/

namespace ErrorTables

/-- What can be set for all headers of a run. -/
structure Settings where
  extension : String := "h"
  infoType : String := "heron::error::error_info_t"
  countType : String := "sp_uint32"
  sentinel : String := "dummy error code"
  bannerLines : List String := []
  showsLabel : Bool := false
  timestamp : Option String := none
  program : String := "errgen"
  deriving DecidableEq, Repr

/-- Why settings are refused. -/
inductive SettingsError where
  | unreadable (path : Path) (error : FileError)
  | malformed (path : Path) (detail : Option String)
  | notAMapping (path : Path)
  | unknownKeys (keys : List String)
  deriving DecidableEq, Repr

/-- The wording of a refusal. -/
def SettingsError.message : SettingsError → String
  | .unreadable path error => s!"Couldn't open config {path}: {error.message}"
  | .malformed path none => s!"Invalid config {path}"
  | .malformed path (some detail) => s!"Invalid config {path}: {detail}"
  | .notAMapping path => s!"Config {path} must be a mapping"
  | .unknownKeys keys =>
      let keys := ", ".intercalate keys
      s!"Unknown config keys: {keys}"

/-- Why no settings can be taken from a mapping or a file. -/
inductive SettingsProblem where
  | refused (error : SettingsError)
  | fault (fault : Fault)
  deriving DecidableEq, Repr

namespace Settings

/-- The keys of the settings. -/
def keys : List String :=
  [ "extension", "info_type", "count_type", "sentinel", "banner_lines", "emit_label", "timestamp",
    "program" ]

/-- The key is one of a setting. -/
def isKnown (key : Value) : Bool :=
  match key with
  | .text name => keys.contains name
  | _ => false

/-- Keys of a kind that can be put in order: all texts, all numbers, all bytes, all dates, or all
moments that say how far they are from universal time or do not. -/
def comparisonKind : Value → Option String
  | .text _ => some "text"
  | .boolean _ | .integer _ | .real _ => some "number"
  | .bytes _ => some "bytes"
  | .date _ => some "date"
  | .moment time => some (if time.offset.isSome then "placed moment" else "moment")
  | _ => none

/-- The fault of two keys that cannot be put in order. -/
def comparisonFault (first second : Value) : Fault :=
  match first, second with
  | .moment _, .moment _ => .incomparableMoments
  | .date _, .moment _ | .moment _, .date _ => .incomparableDates
  | _, _ => .incomparableKeys first.kind second.kind

/-- The fault of the first two neighbours that cannot be put in order. -/
def orderFault? : List Value → Option Fault
  | first :: second :: rest =>
      if (comparisonKind first).isSome && comparisonKind first = comparisonKind second then
        orderFault? (second :: rest)
      else some (comparisonFault second first)
  | _ => none

/-- The least of some numbers. -/
def leastNumber (first : Value) (rest : List Value) : Value :=
  rest.foldl (fun least number => if number.numberLess least then number else least) first

/-- The problem of keys that no setting has. Keys that are all texts are listed in order; others
are faults, the sooner the less they have in common. -/
def unknownKeysProblem (unknown : List Value) : SettingsProblem :=
  match orderFault? unknown with
  | some fault => .fault fault
  | none =>
      let names := unknown.filterMap fun key =>
        match key with
        | .text name => some name
        | _ => none
      if names.length = unknown.length then
        .refused (.unknownKeys (names.mergeSort fun first second => first ≤ second))
      else .fault (.keyNotText (unknown.head?.elim "" fun first =>
        (leastNumber first unknown.tail).kind))

section Taking

variable (plain : Value → Except Fault String)

/-- The plain text of a setting. -/
def textSetting (pairs : List (Value × Value)) (key fallback : String) : Except Fault String :=
  match Value.field? key pairs with
  | none => .ok fallback
  | some value => plain value

/-- The lines that are added to banners: the lines of a text, the octets of bytes, the items of a
sequence, a tuple or a set, or the keys of a mapping. What is empty or false adds none. -/
def bannerSetting (pairs : List (Value × Value)) : Except Fault (List Value) :=
  match Value.field? "banner_lines" pairs with
  | none => .ok []
  | some value =>
      if !value.truth then .ok []
      else
        match value with
        | .text content =>
            .ok ((Text.splitLines content.toList).map fun line => .text (String.ofList line))
        | .bytes octets => .ok (octets.map fun octet => .integer octet.toNat)
        | .sequence items | .tuple items | .set items => .ok items
        | .mapping inner => .ok (inner.map (·.1))
        | other => .error (.notIterable other.kind)

/-- The timestamp, if it is neither empty nor false. -/
def timestampSetting (pairs : List (Value × Value)) : Except Fault (Option String) :=
  match Value.field? "timestamp" pairs with
  | some value => if value.truth then (plain value).map some else .ok none
  | none => .ok none

/-- The settings that the pairs of a mapping with known keys make. -/
def ofKnown (pairs : List (Value × Value)) : Except Fault Settings := do
  let defaults : Settings := {}
  let extension ← textSetting plain pairs "extension" defaults.extension
  let infoType ← textSetting plain pairs "info_type" defaults.infoType
  let countType ← textSetting plain pairs "count_type" defaults.countType
  let sentinel ← textSetting plain pairs "sentinel" defaults.sentinel
  let bannerLines ← (← bannerSetting pairs).mapM plain
  let timestamp ← timestampSetting plain pairs
  let program ← textSetting plain pairs "program" defaults.program
  return {
    extension := String.ofList (extension.toList.dropWhile (· = '.'))
    infoType, countType, sentinel, bannerLines
    showsLabel := ((Value.field? "emit_label" pairs).map Value.truth).getD defaults.showsLabel
    timestamp, program }

/-- The settings that a mapping makes, its values being taken by the given texts. -/
def ofMappingWith (pairs : List (Value × Value)) : Except SettingsProblem Settings :=
  let unknown := (pairs.map (·.1)).filter fun key => !isKnown key
  if unknown.isEmpty then (ofKnown plain pairs).mapError .fault
  else .error (unknownKeysProblem unknown)

end Taking

/-- The text that a value is taken by. -/
def plainText (value : Value) : Except Fault String :=
  value.plain.mapError .numeral

/-- The settings that a mapping makes. -/
def ofMapping (pairs : List (Value × Value)) : Except SettingsProblem Settings :=
  ofMappingWith plainText pairs

/-- The timestamp that is set, or else the given one. -/
def timestampOr (settings : Settings) (fallback : String) : String :=
  match settings.timestamp with
  | some fixed => if fixed.isEmpty then fallback else fixed
  | none => fallback

/-- What the headers of a source say with these settings, at the given time unless one is set. -/
def context (settings : Settings) (source timestamp : String) : Header.Context where
  source := source
  program := settings.program
  timestamp := settings.timestampOr timestamp
  infoType := settings.infoType
  countType := settings.countType
  sentinel := settings.sentinel
  bannerLines := settings.bannerLines
  showsLabel := settings.showsLabel

end Settings

end ErrorTables
