import ErrorTables.Console.Expression.Lexeme

/-!
The places between the lexemes of an expression. A place knows the brackets that are open around it,
and whether an operand is due or has been read; `Place.step` is the place behind one more lexeme.
-/

namespace ErrorTables.Console.Expression

/-- What an operand is, as far as faults tell. -/
inductive Kind where
  | name (text : String)
  | groupedName
  | constant (text : String)
  | ellipsis
  | number
  | quoted
  | member
  | call
  | arithmetic
  | tuple
  | set
  | dictionary
  | comparison
  | starred
  | doublyStarred
  deriving DecidableEq, Repr

/-- What stands in front of an operand within its element. -/
inductive Lead where
  | nothing
  | arithmetic
  | comparison
  | condition
  | loop
  | star
  | doubleStar
  deriving DecidableEq, Repr

/-- What is open: parentheses around one element or several, the arguments of a call, or braces, of
which the first element has not ended, or that hold elements, keys with values behind them, or a
value. -/
inductive Form where
  | group
  | tuple
  | call
  | braces
  | elements
  | keys
  | value
  deriving DecidableEq, Repr

/-- An open bracket, and what stands in front of it within its element. -/
structure Frame where
  form : Form
  lead : Lead
  deriving DecidableEq, Repr

/-- What comes next: an operand, or the end of the brackets if they have just been opened or a comma
stands in front; the name of a member; or what may follow an operand. -/
inductive Stand where
  | due (closable : Bool) (lead : Lead)
  | dotted (lead : Lead)
  | behind (lead : Lead) (kind : Kind)
  deriving DecidableEq, Repr

/-- A place in an expression, with the latest open bracket first. -/
structure Place where
  frames : List Frame
  stand : Stand
  deriving DecidableEq, Repr

/-! ### Words and signs -/

/-- The words that stand for values. -/
def valueWords : List String :=
  ["True", "False", "None"]

/-- The words that are no names. -/
def reservedWords : List String :=
  [ "and", "as", "assert", "async", "await", "break", "class", "continue", "def", "del", "elif",
    "else", "except", "finally", "for", "from", "global", "if", "import", "in", "is", "lambda",
    "nonlocal", "not", "or", "pass", "raise", "return", "try", "while", "with", "yield" ]

/-- The words between the operands of a comparison. -/
def comparisonWords : List String :=
  ["and", "or", "in", "is"]

/-- The signs between the operands of a comparison. -/
def comparisonSigns : List String :=
  ["<", ">", "==", "!=", ">=", "<="]

/-- The signs between the operands of arithmetic. -/
def arithmeticSigns : List String :=
  ["+", "-", "*", "/", "//", "%", "@", "**", "<<", ">>", "&", "|", "^"]

/-- The signs in front of an operand of arithmetic. -/
def leadingSigns : List String :=
  ["+", "-", "~"]

/-- The operand that a lexeme is. -/
def operandOf? : Lexeme → Option Kind
  | .name word =>
      if valueWords.contains word then some (.constant word)
      else if reservedWords.contains word then none
      else some (.name word)
  | .number => some .number
  | .quoted => some .quoted
  | .sign "..." => some .ellipsis
  | _ => none

/-- The lexeme starts an operand and is not read as an operator behind one. -/
def opensOperand (lexeme : Lexeme) : Bool :=
  (operandOf? lexeme).isSome || lexeme = .sign "\x7b" || lexeme = .sign "~" ||
    lexeme = .name "not" || lexeme = .name "lambda"

/-! ### Elements -/

/-- What an element is, of which an operand is the end. -/
def Lead.element (lead : Lead) (kind : Kind) : Kind :=
  match lead with
  | .nothing => kind
  | .arithmetic => .arithmetic
  | .comparison | .condition | .loop => .comparison
  | .star => .starred
  | .doubleStar => .doublyStarred

/-- What stands in front of the next operand behind a sign of arithmetic. -/
def Lead.behindArithmetic : Lead → Lead
  | .nothing => .arithmetic
  | lead => lead

/-- What stands in front of the next operand behind the sign or word of a comparison. -/
def Lead.behindComparison : Lead → Lead
  | .nothing | .arithmetic => .comparison
  | lead => lead

/-- What is open behind a comma. -/
def Form.behindComma? (element : Kind) : Form → Option Form
  | .group | .tuple => if element = .doublyStarred then none else some .tuple
  | .call => some .call
  | .braces => some (if element = .doublyStarred then .keys else .elements)
  | .elements => if element = .doublyStarred then none else some .elements
  | .keys => if element = .doublyStarred then some .keys else none
  | .value => some .keys

/-- The operand that brackets are when they are closed behind an element. -/
def Form.closed? (element : Kind) : Form → Option Kind
  | .group =>
      match element with
      | .starred | .doublyStarred => none
      | .name _ => some .groupedName
      | element => some element
  | .tuple => if element = .doublyStarred then none else some .tuple
  | .call => some .call
  | .braces => some (if element = .doublyStarred then .dictionary else .set)
  | .elements => if element = .doublyStarred then none else some .set
  | .keys => if element = .doublyStarred then some .dictionary else none
  | .value => some .dictionary

/-- The operand that brackets are when they are closed behind the opening one or a comma. -/
def Form.closedEarly? : Form → Option Kind
  | .group | .tuple => some .tuple
  | .call => some .call
  | .braces | .keys => some .dictionary
  | .elements => some .set
  | .value => none

/-- The sign that closes brackets. -/
def Form.closing : Form → String
  | .group | .tuple | .call => ")"
  | _ => "\x7d"

/-- An element of several values may stand in the brackets. -/
def Form.takesStar : Form → Bool
  | .keys | .value => false
  | _ => true

/-- An element of several keys with values may stand in the brackets. -/
def Form.takesDoubleStar : Form → Bool
  | .group | .call | .braces | .keys => true
  | _ => false

/-- An element may be given a name in the brackets. -/
def Form.takesName : Form → Bool
  | .keys | .value => false
  | _ => true

/-! ### Steps -/

/-- The place behind a bracket that closes the latest frame. -/
def closeFrame? (frames : List Frame) (closed? : Form → Option Kind) (sign : String)
    : Option Place :=
  match frames with
  | frame :: rest =>
      if sign = frame.form.closing then
        (closed? frame.form).map fun kind => { frames := rest, stand := .behind frame.lead kind }
      else none
  | [] => none

/-- The place behind a lexeme where an operand is due. -/
def stepDue? (frames : List Frame) (closable : Bool) (lead : Lead) (lexeme : Lexeme)
    : Option Place :=
  match operandOf? lexeme with
  | some kind => some { frames, stand := .behind lead kind }
  | none =>
      let form? := if closable then frames.head?.map Frame.form else none
      match lexeme with
      | .name "not" => some { frames, stand := .due false lead.behindComparison }
      | .sign "(" => some { frames := ⟨.group, lead⟩ :: frames, stand := .due true .nothing }
      | .sign "\x7b" => some { frames := ⟨.braces, lead⟩ :: frames, stand := .due true .nothing }
      | .sign sign =>
          if leadingSigns.contains sign then
            some { frames, stand := .due false lead.behindArithmetic }
          else if sign = "*" && form?.any Form.takesStar then
            some { frames, stand := .due false .star }
          else if sign = "**" && form?.any Form.takesDoubleStar then
            some { frames, stand := .due false .doubleStar }
          else if form?.isSome then closeFrame? frames Form.closedEarly? sign
          else none
      | _ => none

/-- The place behind a sign that follows an operand. -/
def stepSign? (frames : List Frame) (lead : Lead) (kind : Kind) (sign : String) : Option Place :=
  let element := lead.element kind
  if sign = "(" then some { frames := ⟨.call, lead⟩ :: frames, stand := .due true .nothing }
  else if sign = "." then some { frames, stand := .dotted lead }
  else if arithmeticSigns.contains sign then
    some { frames, stand := .due false lead.behindArithmetic }
  else if comparisonSigns.contains sign then
    some { frames, stand := .due false lead.behindComparison }
  else if lead = .condition then none
  else
    match frames with
    | [] => none
    | frame :: outer =>
        if sign = "," then
          (frame.form.behindComma? element).map fun form =>
            { frames := { frame with form } :: outer, stand := .due true .nothing }
        else if sign = ":" then
          if (frame.form = .braces || frame.form = .keys) && element ≠ .starred &&
              element ≠ .doublyStarred then
            some { frames := { frame with form := .value } :: outer, stand := .due false .nothing }
          else none
        else if sign = "=" || sign = ":=" then
          match element with
          | .name _ =>
              if (sign = "=" && frame.form = .call) || (sign = ":=" && frame.form.takesName) then
                some { frames, stand := .due false .comparison }
              else none
          | _ => none
        else closeFrame? frames (Form.closed? element) sign

/-- The place behind a word that follows an operand. -/
def stepWord? (frames : List Frame) (lead : Lead) (kind : Kind) (word : String)
    (rest : List Lexeme) : Option Place :=
  if comparisonWords.contains word then some { frames, stand := .due false lead.behindComparison }
  else if word = "not" && rest.head? = some (.name "in") then
    some { frames, stand := .behind lead kind }
  else if word = "if" then
    some { frames, stand := .due false (if lead = .loop then .loop else .condition) }
  else if word = "else" && lead = .condition then
    some { frames, stand := .due false .comparison }
  else if word = "for" && !frames.isEmpty && lead ≠ .condition then
    some { frames, stand := .due false .loop }
  else none

/-- The place behind one more lexeme of an expression, if it can go on with that. -/
def Place.step? (place : Place) (lexeme : Lexeme) (rest : List Lexeme) : Option Place :=
  match place.stand with
  | .due closable lead => stepDue? place.frames closable lead lexeme
  | .dotted lead =>
      match operandOf? lexeme with
      | some (.name _) => some { place with stand := .behind lead .member }
      | _ => none
  | .behind lead kind =>
      match lexeme with
      | .sign sign => stepSign? place.frames lead kind sign
      | .name word => stepWord? place.frames lead kind word rest
      | .quoted => if kind = .quoted then some place else none
      | _ => none

/-- Where the longest expression at the start of lexemes ends: at their end, at a lexeme with more
behind it, or nowhere if there is none. -/
inductive Reach where
  | toEnd
  | upTo (rest : List Lexeme)
  | nowhere
  deriving DecidableEq, Repr

/-- An expression may end at the place. -/
def Place.isComplete (place : Place) : Bool :=
  match place.stand with
  | .behind _ _ => place.frames.isEmpty
  | _ => false

/-- The lexeme belongs to a comparison, not to arithmetic. -/
def opensComparison : Lexeme → Bool
  | .sign sign => comparisonSigns.contains sign
  | .name _ => true
  | _ => false

/-- Goes on from a place as far as an expression reaches, where `ending` is the latest lexeme at
which it could end. With `tight`, a comparison ends it. -/
def Place.reach (tight : Bool) (ending : Reach) (place : Place) : List Lexeme → Reach
  | [] => .toEnd
  | lexeme :: rest =>
      let ending := if place.isComplete then .upTo (lexeme :: rest) else ending
      if tight && place.isComplete && opensComparison lexeme then ending
      else
        match place.step? lexeme rest with
        | some next => next.reach tight ending rest
        | none => ending

/-- Where the longest expression at the start of lexemes ends. -/
def reach (tight : Bool) (lexemes : List Lexeme) : Reach :=
  Place.reach tight .nowhere { frames := [], stand := .due false .nothing } lexemes

end ErrorTables.Console.Expression
