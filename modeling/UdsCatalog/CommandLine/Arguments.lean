import UdsCatalog.Text.Reads

/-! The arguments of the two programs: flags with one value each, and a request for help. -/

namespace UdsCatalog.CommandLine

/-- The programs: one writes the pair of generated files, the other renders a single template. -/
inductive Program where
  | generate
  | render
  deriving DecidableEq, Repr

/-- A flag. Each has a value. -/
inductive Flag where
  | template
  | output
  | config
  | definitions
  deriving DecidableEq, Repr

/-- The name of a flag behind two dashes. -/
def Flag.long : Flag → String
  | .template => "template"
  | .output => "output"
  | .config => "config"
  | .definitions => "definitions"

/-- The letter of a flag behind one dash. -/
def Flag.letter? : Flag → Option Char
  | .template => some 't'
  | .output => some 'o'
  | .config => some 'c'
  | .definitions => none

/-- The flags of a program. -/
def Program.flags : Program → List Flag
  -- The order is that of the usage.
  | .generate => [.config, .definitions, .output]
  | .render => [.template, .output, .config, .definitions]

/-- The flags that a program must be given. -/
def Program.required : Program → List Flag
  | .generate => []
  | .render => [.template, .output]

/-- What an argument looks like. -/
inductive Word where
  | plain
  /-- A flag whose value is the next argument. -/
  | flag (flag : Flag)
  /-- A flag and its value in one. -/
  | setting (flag : Flag) (value : String)
  | help
  /-- Two dashes: no flags follow. -/
  | stop
  | wrong
  deriving DecidableEq, Repr

/-- What an argument behind two dashes is. -/
def Program.wordOfLong (program : Program) (chars : List Char) : Word :=
  let name := String.ofList (chars.takeWhile (· != '='))
  match program.flags.find? (·.long == name), chars.dropWhile (· != '=') with
  -- Without a sign of equality the next argument is the value.
  | some flag, [] => .flag flag
  | some flag, _ :: value => .setting flag (String.ofList value)
  -- Help takes no value, so a sign of equality behind it makes it wrong.
  | none, [] => if name == "help" then .help else .wrong
  | none, _ => .wrong

/-- What an argument behind one dash is: a letter, and perhaps a value with or without a sign of
equality in front. -/
def Program.wordOfShort (program : Program) (letter : Char) (rest : List Char) : Word :=
  -- What follows the letter is not read any more.
  if letter == 'h' then .help
  else
    match program.flags.find? (·.letter? == some letter), rest with
    | none, _ => .wrong
    | some flag, [] => .flag flag
    | some flag, '=' :: value => .setting flag (String.ofList value)
    | some flag, value => .setting flag (String.ofList value)

/-- What an argument looks like. A single dash is a plain one. -/
def Program.wordOf (program : Program) (argument : String) : Word :=
  match argument.toList with
  | ['-', '-'] => .stop
  | '-' :: '-' :: rest => program.wordOfLong rest
  -- Letters are not gathered behind one dash, for every flag takes a value.
  | '-' :: letter :: rest => program.wordOfShort letter rest
  | _ => .plain

/-- The values that flags were given. -/
abbrev Given := List (Flag × String)

/-- What the arguments ask for. -/
inductive Request where
  | run (given : Given)
  | help
  | misuse
  deriving DecidableEq, Repr

/-- Gives a flag its value: only once, and not an empty one. -/
def Given.give? (given : Given) (flag : Flag) (value : String) : Option Given :=
  -- An empty value is refused here, so no later step has to ask.
  if value == "" || (given.lookup flag).isSome then none else some (given ++ [(flag, value)])

/-- The request at the end of the arguments. -/
def Program.finish (program : Program) (given : Given) : Request :=
  if program.required.all fun flag => (given.lookup flag).isSome then .run given else .misuse

/-- Reads arguments one after the other; a flag may wait for its value. -/
def Program.requestFrom (program : Program) : Given → Option Flag → List String → Request
  -- Whether everything required was given can only be told at the end.
  | given, none, [] => program.finish given
  | _, some _, [] => .misuse
  | given, some flag, argument :: rest =>
    -- A value that looks like a flag is no value.
    match program.wordOf argument, given.give? flag argument with
    | .plain, some given => program.requestFrom given none rest
    | _, _ => .misuse
  | given, none, argument :: rest =>
    match program.wordOf argument with
    | .flag flag => program.requestFrom given (some flag) rest
    | .setting flag value =>
      match given.give? flag value with
      | some given => program.requestFrom given none rest
      | none => .misuse
    -- Help wins over anything that follows, but not over a fault in front.
    | .help => .help
    -- There are no arguments but flags, so nothing may follow.
    | .stop => if rest.isEmpty then program.finish given else .misuse
    | .plain | .wrong => .misuse

/-- Reads the arguments. -/
def Program.request (program : Program) (arguments : List String) : Request :=
  program.requestFrom [] none arguments

end UdsCatalog.CommandLine
