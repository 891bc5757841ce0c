import ErrorTables.Definition.Base
import ErrorTables.Definition.Line
import ErrorTables.Group
import ErrorTables.Text.Lines

/-!
Reading the groups of a definition file. Groups stand one after the other and do not nest; names
are distinct in the file and tags are distinct in a group. Reading stops at the first problem and
keeps the groups that were closed before it.
-/

namespace ErrorTables.Definition

open Text

/-- What is wrong with a definition file. -/
inductive Problem where
  | unknownLine (line : UnknownLine)
  | unclosedGroup (name : String) (openedAt : Nat)
  | repeatedName (name : String)
  | invalidBase (text : String)
  | strayClosing
  | malformedOpening (text : String)
  | strayEntry (tag : String)
  | repeatedTag (tag group : String)
  deriving DecidableEq, Repr

/-- The wording of a problem. -/
def Problem.message : Problem → String
  | .unknownLine line => line.message
  | .unclosedGroup name openedAt =>
      s!"missing close marker for group '{name}' opened at line {openedAt}"
  | .repeatedName name => s!"duplicate group name '{name}'"
  | .invalidBase text => s!"invalid base '{text}'"
  | .strayClosing => "close marker without an open group"
  | .malformedOpening text => s!"malformed group header: {quoted text}"
  | .strayEntry tag => s!"entry '{tag}' outside of any group"
  | .repeatedTag tag group => s!"duplicate tag '{tag}' in group '{group}'"

/-- A message behind the place that it is about: a source, which may be nameless, and a line. -/
def located (source : Option String) (line : Option Int) (message : String) : String :=
  let name := source.getD ""
  let place := if name.isEmpty then "<input>" else name
  match line with
  | some line => s!"{place}:{line}: {message}"
  | none => s!"{place}: {message}"

/-- A problem with the source and the line at which it shows. -/
structure ParseError where
  problem : Problem
  source : Option String
  line : Nat
  deriving DecidableEq, Repr

/-- The wording of an error, place included. -/
def ParseError.message (error : ParseError) : String :=
  located error.source (some error.line) error.problem.message

/-- The names that groups have taken, and the group that is open. -/
structure ParserState where
  names : List String := []
  current : Option Group := none
  deriving DecidableEq, Repr

namespace ParserState

/-- Opens a group at a line. -/
def openGroup (state : ParserState) (source : Option String) (line : Nat) (opening : Opening)
    : Except Problem ParserState :=
  match state.current with
  | some group => .error (.unclosedGroup group.name group.line)
  | none =>
      if opening.name ∈ state.names then .error (.repeatedName opening.name)
      else
        match readBase opening.base with
        | .error _ => .error (.invalidBase opening.base)
        | .ok base =>
            .ok {
              names := opening.name :: state.names
              current := some {
                name := opening.name, base, label := opening.label
                qualifier := opening.qualifier, source, line } }

/-- Adds the entry that a line gives to the open group. -/
def addEntry (state : ParserState) (line : Nat) (text tag message : String)
    : Except Problem ParserState :=
  match state.current with
  | none =>
      if (trim text.toList).getLast? = some '{' then
        .error (.malformedOpening (String.ofList (trim text.toList)))
      else .error (.strayEntry tag)
  | some group =>
      if tag ∈ group.entries.map (·.tag) then .error (.repeatedTag tag group.name)
      else
        let entries := group.entries ++ [⟨tag, message, line⟩]
        .ok { state with current := some { group with entries } }

/-- Takes in one line. The second component is the group that the line closes. -/
def step (state : ParserState) (source : Option String) (line : Nat) (text : String)
    : Except Problem (ParserState × Option Group) :=
  match Line.classify text with
  | .error unknown => .error (.unknownLine unknown)
  | .ok .ignored => .ok (state, none)
  | .ok (.opening opening) => (state.openGroup source line opening).map (·, none)
  | .ok (.entry tag message) => (state.addEntry line text tag message).map (·, none)
  | .ok .closing =>
      match state.current with
      | none => .error .strayClosing
      | some group => .ok ({ state with current := none }, some group)

end ParserState

/-- The groups that were closed, and the error that reading stopped at, if any. -/
structure Parse where
  groups : List Group := []
  error : Option ParseError := none
  deriving DecidableEq, Repr

/-- Reads on from a state in which the given number of lines has been read. -/
def parseFrom (source : Option String) (state : ParserState) (count : Nat) : List String → Parse
  | [] =>
      match state.current with
      | none => {}
      | some group =>
          { error := some ⟨.unclosedGroup group.name group.line, source, count⟩ }
  | text :: rest =>
      match state.step source (count + 1) text with
      | .error problem => { error := some ⟨problem, source, count + 1⟩ }
      | .ok (next, closed) =>
          let parse := parseFrom source next (count + 1) rest
          { parse with groups := closed.toList ++ parse.groups }

/-- Reads a list of lines. -/
def parseLines (source : Option String) (lines : List String) : Parse :=
  parseFrom source {} 0 lines

/-- The groups, unless reading stopped at an error. -/
def Parse.toExcept (parse : Parse) : Except ParseError (List Group) :=
  match parse.error with
  | some error => .error error
  | none => .ok parse.groups

/-- The groups that a text defines. -/
def parseText (source : Option String) (text : String) : Except ParseError (List Group) :=
  (parseLines source ((splitLines text.toList).map String.ofList)).toExcept

end ErrorTables.Definition
