import ErrorTables.Console.Expression
import ErrorTables.Text.Quoted

/-!
The parameters of events in markup. They name a handler, perhaps with its arguments in parentheses,
or are an expression of their own.
-/

namespace ErrorTables.Console.Parameters

open Text

/-- Why parameters are refused: a part of them is no expression, or it is one that does not stand
for constants. They are given as they are written. -/
inductive Fault where
  | noExpression (part written : String) (reason : Expression.Fault)
  | notConstant (written : String)
  deriving DecidableEq, Repr

/-- The wording of a fault. -/
def Fault.message : Fault → String
  | .noExpression part written reason =>
      s!"error parsing {quoted part} in {quoted written}; {reason.message}"
  | .notConstant written => s!"error parsing {quoted written}; malformed node or string"

/-- A character of the name of a handler. -/
def isHandlerChar (c : Char) : Bool :=
  isWord c || c == '.'

/-- The expression in parameters: the arguments of a handler, with none if only a handler is named,
or else all of the parameters. -/
def expressionOf (parameters : List Char) : List Char :=
  match parameters.dropWhile isHandlerChar with
  | [] => ['(', ')']
  | rest =>
      if rest.head? = some '(' && rest.getLast? = some ')' && !rest.contains '\n' then rest
      else parameters

/-- The parameters are in order. -/
def check (written : List Char) : Except Fault Unit := do
  let expression := expressionOf (trim written)
  let isConstant ← (Expression.isConstant expression).mapError
    (.noExpression (String.ofList expression) (String.ofList written))
  if !isConstant then throw (.notConstant (String.ofList written))

end ErrorTables.Console.Parameters
