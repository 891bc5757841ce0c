/-!
Reading the options of a command. An option has a name that is matched whole, or a letter that may
stand in a cluster behind one dash; some options take a value. What is no option is handed on.
-/

namespace ErrorTables.CommandLine

/-- What an option does to the choices `σ` of a command. -/
inductive Effect (σ : Type) where
  | flag (apply : σ → σ)
  | valued (apply : String → σ → σ)

/-- The options of a command by their names and by their letters. -/
structure OptionTable (σ : Type) where
  names : List (String × Effect σ)
  letters : List (Char × Effect σ)

/-- Why arguments are refused. -/
inductive ArgumentError where
  | unknownOption (name : String)
  | missingValue (name : String)
  | unexpectedValue (name : String)
  | missingArgument (name : String)
  deriving DecidableEq, Repr

/-- The wording of a refusal. -/
def ArgumentError.message : ArgumentError → String
  | .unknownOption name => s!"No such option: {name}"
  | .missingValue name => s!"Option '{name}' requires an argument."
  | .unexpectedValue name => s!"Option '{name}' does not take a value."
  | .missingArgument name => s!"Missing argument '{name}'."

/-- The choices after an option, and the arguments that are left. -/
abbrev Step (σ : Type) := Except ArgumentError (σ × List String)

/-- The argument counts as an option: it starts with a dash and is more than a dash. -/
def isOption (argument : String) : Bool :=
  match argument.toList with
  | '-' :: _ :: _ => true
  | _ => false

/-- An argument in front of its first equals sign, and what is behind the sign if there is one. -/
def splitAssignment (argument : String) : String × Option String :=
  let name := argument.toList.takeWhile (· ≠ '=')
  match argument.toList.drop name.length with
  | _ :: value => (String.ofList name, some (String.ofList value))
  | [] => (String.ofList name, none)

namespace OptionTable

/-- Takes the value of an option from the arguments that follow it. -/
def takeValue {σ : Type} (name : String) (apply : String → σ → σ) (choices : σ)
    : List String → Step σ
  | value :: rest => .ok (apply value choices, rest)
  | [] => .error (.missingValue name)

/-- Reads a cluster of letters. The value of an option is the rest of the cluster or, if that is
empty, the next argument. -/
def readCluster {σ : Type} (table : OptionTable σ) (choices : σ) (rest : List String)
    : List Char → Step σ
  | [] => .ok (choices, rest)
  | letter :: more =>
      match table.letters.lookup letter with
      | none => .error (.unknownOption s!"-{letter}")
      | some (.flag apply) => table.readCluster (apply choices) rest more
      | some (.valued apply) =>
          if more.isEmpty then takeValue s!"-{letter}" apply choices rest
          else .ok (apply (String.ofList more) choices, rest)

/-- Reads an option. What starts with two dashes is no cluster. -/
def readOption {σ : Type} (table : OptionTable σ) (choices : σ) (argument : String)
    (rest : List String) : Step σ :=
  let (name, value) := splitAssignment argument
  match table.names.lookup name, value with
  | some (.flag apply), none => .ok (apply choices, rest)
  | some (.flag _), some _ => .error (.unexpectedValue name)
  | some (.valued apply), none => takeValue name apply choices rest
  | some (.valued apply), some value => .ok (apply value choices, rest)
  | none, _ =>
      match argument.toList with
      | '-' :: '-' :: _ => .error (.unknownOption name)
      | letters => table.readCluster choices rest letters.tail

theorem length_takeValue {σ : Type} {name : String} {apply : String → σ → σ} {choices after : σ}
    {rest left : List String} (taken : takeValue name apply choices rest = .ok (after, left))
    : left.length ≤ rest.length := by
  cases rest with
  | nil => simp [takeValue] at taken
  | cons value rest =>
      simp only [takeValue, Except.ok.injEq, Prod.mk.injEq] at taken
      simp [← taken.2]

theorem length_readCluster {σ : Type} {table : OptionTable σ} {choices after : σ}
    {rest left : List String} {letters : List Char}
    (read : table.readCluster choices rest letters = .ok (after, left))
    : left.length ≤ rest.length := by
  induction letters generalizing choices with
  | nil =>
      simp only [readCluster, Except.ok.injEq, Prod.mk.injEq] at read
      simp [← read.2]
  | cons letter more ih =>
      unfold readCluster at read
      split at read
      · simp at read
      · exact ih read
      · split at read
        · exact length_takeValue read
        · simp only [Except.ok.injEq, Prod.mk.injEq] at read
          simp [← read.2]

/-- Reading an option never leaves more arguments than there were. -/
theorem length_readOption {σ : Type} {table : OptionTable σ} {choices after : σ}
    {argument : String} {rest left : List String}
    (read : table.readOption choices argument rest = .ok (after, left))
    : left.length ≤ rest.length := by
  unfold readOption at read
  split at read
  split at read
  · simp only [Except.ok.injEq, Prod.mk.injEq] at read
    simp [← read.2]
  · simp at read
  · exact length_takeValue read
  · simp only [Except.ok.injEq, Prod.mk.injEq] at read
    simp [← read.2]
  · split at read
    · simp at read
    · exact length_readCluster read

/-- Reads all arguments: the choices that the options make, the later ones over the earlier ones,
and the other arguments in their order. Behind two dashes alone there are no more options. -/
def read {σ : Type} (table : OptionTable σ) (choices : σ) (arguments : List String) : Step σ :=
  match arguments with
  | [] => .ok (choices, [])
  | argument :: rest =>
      if argument = "--" then .ok (choices, rest)
      else if isOption argument then
        match _step : table.readOption choices argument rest with
        | .error error => .error error
        | .ok (choices, left) => table.read choices left
      else (table.read choices rest).map fun (choices, others) => (choices, argument :: others)
termination_by arguments.length
decreasing_by
  · have shorter := length_readOption _step
    simp only [List.length_cons]
    omega
  · simp

end OptionTable

end ErrorTables.CommandLine
