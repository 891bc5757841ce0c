import ErrorTables.Console.Expression.Place

/-!
Expressions that describe the parameters of events. A text is gone through place by place; where it
cannot go on, the place and the lexemes ahead tell what is wrong.
-/

namespace ErrorTables.Console.Expression

/-- The names of commands that were once written without parentheses. -/
def formerCommands : List String :=
  ["print", "exec"]

/-- The names that may also open a construction of several words. -/
def softWords : List String :=
  ["_", "case", "match"]

/-- What an element is called where it must not be given a value. -/
def Kind.assignedName? : Kind → Option String
  | .groupedName => some "name"
  | .ellipsis => some "ellipsis"
  | .number | .quoted => some "literal"
  | .member => some "attribute"
  | .call => some "function call"
  | .arithmetic => some "expression"
  | .set => some "set display"
  | .dictionary => some "dict literal"
  | _ => none

/-- What an element is called where it must not be given a name. -/
def Kind.namedName? : Kind → Option String
  | .constant text => some text
  | .tuple => some "tuple"
  | .comparison => some "comparison"
  | kind => kind.assignedName?

/-- The fault at a lexeme that an expression cannot go on with, where nothing closer is known. -/
def plainFault (frames : List Frame) : Fault :=
  if frames.head?.any (·.form = .keys) then .missingColon else .unexpected

/-- The fault of an operand that reaches to the end of a text. -/
def endFault (frames : List Frame) (opened : Option Char) : Fault :=
  (opened.map Fault.unclosed).getD (plainFault frames)

/-- The fault of an operand that directly follows an element. -/
def adjacentFault (opened : Option Char) (frames : List Frame) (lexemes : List Lexeme) : Fault :=
  match reach false lexemes with
  | .toEnd => endFault frames opened
  | .upTo _ => if frames.isEmpty then .unexpected else .missingComma
  | .nowhere => plainFault frames

/-- The fault of an operand that directly follows a name with nothing in front. The name may be a
command, or open a construction of several words; a comma is missing only if it is neither, and no
text between quotes follows. -/
def operandOfNameFault (opened : Option Char) (frames : List Frame) (name : String)
    (lexemes : List Lexeme) : Fault :=
  let isPlain := !softWords.contains name && lexemes.head? ≠ some .quoted && !frames.isEmpty
  match reach false lexemes with
  | .toEnd =>
      if opened.isNone && formerCommands.contains name then .missingParentheses name
      else endFault frames opened
  | .upTo rest =>
      if formerCommands.contains name then .missingParentheses name
      else if isPlain then .missingComma
      else if rest.head?.any opensOperand then adjacentFault opened frames rest
      else plainFault frames
  | .nowhere => plainFault frames

/-- The fault of an equals sign, in front of lexemes, behind an element that has no name to take a
value. -/
def equalsFault (opened : Option Char) (frames : List Frame) (element : Kind)
    (rest : List Lexeme) : Fault :=
  let fault? : Option Fault := match element with
    | .name _ => some .singleEquals
    | element => element.assignedName?.map Fault.assigned
  match fault?, reach true rest with
  | some _, .toEnd => endFault frames opened
  | some fault, .upTo (next :: _) =>
      if next = .sign "=" || next = .sign ":=" then .unexpected else fault
  | some fault, .upTo [] => fault
  | _, _ => .unexpected

/-- The fault of a sign behind an element. -/
def signFault (opened : Option Char) (frames : List Frame) (element : Kind) (sign : String)
    (rest : List Lexeme) : Fault :=
  match frames.head?.map Frame.form with
  | none => .unexpected
  | some form =>
      if sign = "=" && form = .call then
        match element with
        | .constant text => .assignedArgument (some text)
        | _ => .assignedArgument none
      else if sign = "=" && form.takesName then equalsFault opened frames element rest
      else if sign = ":=" && form.takesName && form ≠ .call then
        match element.namedName?, reach false rest with
        | some name, .upTo _ => .namedOther name
        | some _, .toEnd => endFault frames opened
        | _, _ => .unexpected
      else if sign = ")" && form = .group && element = .starred then .starred
      else if sign = ")" && form = .group && element = .doublyStarred then .doublyStarred
      else plainFault frames

/-- The fault at a lexeme that an expression cannot go on with. -/
def faultAt (opened : Option Char) (place : Place) (lexeme : Lexeme) (rest : List Lexeme)
    : Fault :=
  match lexeme, place.stand with
  | .stray fault, _ => fault
  | lexeme, .due _ lead =>
      if place.frames.head?.any (·.form = .value) && lead = .nothing then
        if lexeme = .sign "," || lexeme = .sign "\x7d" then .missingValue
        else if lexeme = .sign "*" && reach true rest ≠ .nowhere then .starredValue
        else .unexpected
      else .unexpected
  | _, .dotted _ => .unexpected
  | lexeme, .behind lead kind =>
      if lead = .condition then .missingElse
      else if opensOperand lexeme then
        match lead.element kind with
        | .name name => operandOfNameFault opened place.frames name (lexeme :: rest)
        | _ => adjacentFault opened place.frames (lexeme :: rest)
      else
        match lexeme with
        | .sign sign => signFault opened place.frames (lead.element kind) sign rest
        | _ => plainFault place.frames

/-- Goes through the lexemes of an expression, where `opened` is the latest of the brackets that are
open at their end. Outside brackets, commas may divide elements. -/
def walk (opened : Option Char) (place : Place) : List Lexeme → Except Fault Unit
  | [] =>
      match opened, place.stand with
      | some bracket, _ => .error (.unclosed bracket)
      | none, .behind .condition _ => .error .missingElse
      | none, .behind _ _ => .ok ()
      | none, _ => .error .unexpected
  | lexeme :: rest =>
      let isLast := rest.all (· == .lineEnd)
      if place.isComplete && isLast && (lexeme = .sign "," || lexeme = .lineEnd) then .ok ()
      else if place.isComplete && lexeme = .sign "," then
        walk opened { place with stand := .due false .nothing } rest
      else
        match place.step? lexeme rest with
        | some next => walk opened next rest
        | none => .error (faultAt opened place lexeme rest)

/-- The signs that hold constants together. -/
def constantSigns : List String :=
  ["...", ")", "\x7b", "\x7d", ",", ":"]

/-- The lexemes of an expression stand for constants: nothing is named, called or computed. The
empty set is written like a call. -/
def areConstant (behindOperand : Bool) : List Lexeme → Bool
  | [] => true
  | .name "set" :: .sign "(" :: .sign ")" :: rest => areConstant true rest
  | .sign "+" :: .number :: rest | .sign "-" :: .number :: rest => areConstant true rest
  | .sign "(" :: rest => !behindOperand && areConstant false rest
  | .sign sign :: rest =>
      constantSigns.contains sign && areConstant (sign = ")" || sign = "\x7d") rest
  | .name word :: rest => valueWords.contains word && areConstant true rest
  | _ :: rest => areConstant true rest

/-- Whether the text, which must be an expression, stands for constants. -/
def isConstant (text : List Char) : Except Fault Bool := do
  let (lexemes, opened) ← lexemes (text.dropWhile fun c => c = ' ' || c = '\t')
  walk opened { frames := [], stand := .due false .nothing } lexemes
  return areConstant false lexemes

end ErrorTables.Console.Expression
