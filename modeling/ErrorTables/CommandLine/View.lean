import ErrorTables.CommandLine.Ending
import ErrorTables.Console.Table
import ErrorTables.Listing

/-!
The command that shows a listing as a table. It takes the path of the listing and an option that
selects a group; the names of options may be cut short as long as they are not ambiguous.
-/

namespace ErrorTables.CommandLine.View

open Console Text

/-- What an argument is on its own. `attached` is the value that an option brings with it. -/
inductive Word where
  | value (text : String)
  | marker
  | help
  | misusedHelp
  | group (attached : Option String)
  | unknown
  | ambiguous
  deriving DecidableEq, Repr

/-- The name of the option that asks for help. -/
def helpName : List Char := "--help".toList

/-- The name of the option that selects a group. -/
def groupName : List Char := "--group".toList

/-- A digit of any script. -/
def isDigit (c : Char) : Bool :=
  (Numeral.digit? .decimal c).isSome

/-- The text is a negative number, with or without a decimal point. -/
def isNegativeNumber (text : List Char) : Bool :=
  match text with
  | '-' :: number =>
      let number := if number.getLast? = some '\n' then number.dropLast else number
      let whole := number.takeWhile isDigit
      match number.drop whole.length with
      | [] => !whole.isEmpty
      | '.' :: fraction => !fraction.isEmpty && fraction.all isDigit
      | _ => false
  | _ => false

/-- What a request for help is that brings letters with it, perhaps behind an equals sign. The
request may be repeated, but it takes no value. -/
def attachedHelp (letters : List Char) : Word :=
  match letters with
  | '=' :: letters =>
      if !letters.isEmpty && letters.all (· == 'h') then .help else .misusedHelp
  | letters => if letters.all (· == 'h') then .help else .misusedHelp

/-- The value that an option brings with it. The marker of the end of options is no value. -/
def attachedValue (value : String) : String :=
  if value = "--" then "" else value

/-- What an argument is whose name, in front of an equals sign, starts with two dashes. -/
def longOption (name : List Char) (attached : Option String) : Option Word :=
  match name.isPrefixOf helpName, name.isPrefixOf groupName with
  | true, true => some .ambiguous
  | true, false => some (if attached.isSome then .misusedHelp else .help)
  | false, true => some (.group (attached.map attachedValue))
  | false, false => none

/-- What an argument is that starts with a dash and is no option: a value if it is a negative
number or has a blank in it. -/
def notAnOption (text : List Char) : Word :=
  if isNegativeNumber text || text.contains ' ' then .value (String.ofList text) else .unknown

/-- What an argument is in front of the marker that ends the options. -/
def classify (argument : String) : Word :=
  let text := argument.toList
  match text with
  | ['-', '-'] => .marker
  | '-' :: 'h' :: letters => attachedHelp letters
  | '-' :: '-' :: _ =>
      let name := text.takeWhile (· ≠ '=')
      let attached := (text.drop name.length).tail?.map String.ofList
      (longOption name attached).getD (notAnOption text)
  | '-' :: _ :: _ => notAnOption text
  | _ => .value argument

/-- The words of the arguments. Behind the marker all are values. -/
def classifyAll : List String → List Word
  | [] => []
  | argument :: rest =>
      let word := classify argument
      word :: if word = .marker then rest.map .value else classifyAll rest

/-- What the arguments ask for. -/
inductive Request where
  | help
  | misuse
  | display (path : Path) (group : String)
  deriving DecidableEq, Repr

/-- Goes through the words. The first value is the path; the marker is taken with the path, and
what is left over is misuse in the end. -/
def interpret (path : Option Path) (group : String) (leftOver : Bool) : List Word → Request
  | [] =>
      match path, leftOver with
      | some path, false => .display path group
      | _, _ => .misuse
  | .value text :: .marker :: rest =>
      if path.isSome then interpret path group true rest
      else interpret (some (Path.ofString text)) group leftOver rest
  | .marker :: .value text :: rest =>
      if path.isSome then interpret path group true rest
      else interpret (some (Path.ofString text)) group leftOver rest
  | .value text :: rest =>
      if path.isSome then interpret path group true rest
      else interpret (some (Path.ofString text)) group leftOver rest
  | .group (some name) :: rest => interpret path name leftOver rest
  | .group none :: .value name :: rest => interpret path name leftOver rest
  | .group none :: _ | .misusedHelp :: _ => .misuse
  | .help :: _ => .help
  | .marker :: rest | .unknown :: rest | .ambiguous :: rest => interpret path group true rest

/-- What the arguments ask for. An ambiguous name is found before all else. -/
def readArguments (arguments : List String) : Request :=
  let words := classifyAll arguments
  if words.contains .ambiguous then .misuse else interpret none "" false words

/-- The name that the command goes by. -/
def programName : String := "view_listing"

/-- The help of the command. -/
def helpLines : List String :=
  [ s!"usage: {programName}.py [-h] [--group GROUP] listing",
    "",
    "View an error code listing.",
    "",
    "positional arguments:",
    "  listing        File written by errgen -list.",
    "",
    "options:",
    "  -h, --help     show this help message and exit",
    "  --group GROUP  Only show symbols starting with GROUP_." ]

/-- The codes of a group, or all codes if the name of the group is empty. -/
def select (group : String) (codes : List (String × Int)) : List (String × Int) :=
  if group.isEmpty then codes
  else codes.filter fun (symbol, _) => (group ++ "_").toList.isPrefixOf symbol.toList

/-- The table of codes. -/
def table (codes : List (String × Int)) : Table where
  title := "Codes"
  columns := [
    { header := "Seq", alignment := .right
      cells := codes.map fun (_, number) => Numeral.decimal number },
    { header := "Symbol", cells := codes.map (·.1) }]

/-- What is printed above the table. The path is taken as markup. -/
def heading (count : Nat) (path : Path) : Except Fault String :=
  (Console.print s!"[bold]{count}[/] codes in {path}").mapError .markup

end View

/-- The command with its arguments, on a file system. -/
def viewListing (arguments : List String) (files : FileSystem) : Ending :=
  match View.readArguments arguments with
  | .help => { files, output := Text.closeLines View.helpLines }
  | .misuse => Ending.misuse { files } "the arguments do not name one listing"
  | .display path group =>
      match Listing.load files path with
      | .error fault => Ending.fail { files } fault
      | .ok codes =>
          let codes := View.select group codes
          (Ending.print { files } (View.heading codes.length path)).andThen fun ending =>
            ending.print ((View.table codes).print.mapError .markup)

end ErrorTables.CommandLine
