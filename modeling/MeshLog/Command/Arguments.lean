import MeshLog.Text.Basic

/-!
# Command lines

A command line has options, which start with dashes, and positional arguments. Arguments are read
from left to right, and the first one that does not fit ends the reading. Options may stand
anywhere before a double dash, each at most once; their value is joined to them or follows as an
argument of its own that does not look like an option.
-/

namespace MeshLog

/-- An option. -/
structure OptionSpec where
  name : String
  letter? : Option Char
  /-- Which values it takes, unless it is a mere flag. -/
  accepts? : Option (String → Bool)

/-- What a command line may hold. -/
structure CommandSpec where
  options : List OptionSpec
  /-- Which values the positional arguments take. -/
  positionals : List (String → Bool)
  /-- How many positional arguments there must be. -/
  required : Nat
  hasVersion : Bool
  /-- Names that end this command line and start that of a subcommand. -/
  subcommands : List String

/-- Why a command line does not lead to a command. -/
inductive EarlyExit where
  | usage
  | help
  | version
deriving DecidableEq, Repr

/-- The arguments of a command. -/
structure Arguments where
  /-- The options with their values; flags have an empty one. -/
  options : List (String × String)
  positionals : List String
  subcommand? : Option (String × List String)
deriving DecidableEq, Repr

namespace Arguments

def empty : Arguments := ⟨[], [], none⟩

/-- The value of an option, if it was given. -/
def option? (arguments : Arguments) (name : String) : Option String :=
  arguments.options.lookup name

def flag (arguments : Arguments) (name : String) : Bool := (arguments.option? name).isSome

/-- A positional argument, if it was given. -/
def positional? (arguments : Arguments) (position : Nat) : Option String :=
  arguments.positionals[position]?

end Arguments

namespace CommandSpec

def addOption (arguments : Arguments) (option : OptionSpec) (value : String) :
    Except EarlyExit Arguments :=
  if arguments.flag option.name then .error .usage
  else if option.accepts?.all (· value) then
    .ok { arguments with options := arguments.options ++ [(option.name, value)] }
  else .error .usage

def addPositional (spec : CommandSpec) (arguments : Arguments) (value : String) :
    Except EarlyExit Arguments :=
  match spec.positionals[arguments.positionals.length]? with
  | some accepts =>
    if accepts value then
      .ok { arguments with positionals := arguments.positionals ++ [value] }
    else .error .usage
  | none => .error .usage

/-- Whether an argument starts with a dash and is more than that. -/
def looksLikeOption (argument : String) : Bool :=
  match argument.toList with
  | '-' :: _ :: _ => true
  | _ => false

def addPositionals (spec : CommandSpec) (arguments : Arguments) (values : List String) :
    Except EarlyExit Arguments :=
  values.foldlM spec.addPositional arguments

/-- What an argument that starts with a dash asks for: an option, with a value if one is joined to
it. -/
def recognize (spec : CommandSpec) (argument : Text) :
    Except EarlyExit (OptionSpec × Option String) :=
  match argument with
  | '-' :: '-' :: long =>
    let name := String.ofList (long.takeWhile (· ≠ '='))
    let joined? := (long.dropWhile (· ≠ '=')).tail?.map String.ofList
    match spec.options.find? (·.name == name) with
    | some option => .ok (option, joined?)
    | none =>
      if joined?.isSome then .error .usage
      else if name = "help" then .error .help
      else if name = "version" ∧ spec.hasVersion then .error .version
      else .error .usage
  | _ :: letter :: rest =>
    match spec.options.find? (·.letter? == some letter) with
    | some option =>
      let joined? :=
        match rest with
        | [] => none
        | '=' :: value => some value
        | value => some value
      .ok (option, joined?.map String.ofList)
    | none =>
      if letter = 'h' then .error .help
      else if letter = 'V' ∧ spec.hasVersion then .error .version
      else .error .usage
  | _ => .error .usage

/-- Whether the arguments behind `help` name nothing or one subcommand. -/
def explains (spec : CommandSpec) : List String → Bool
  | [] => true
  | [topic] => topic == "help" || spec.subcommands.contains topic
  | _ => false

/-- Reads the rest of a command line, behind an option that awaits its value if there is one. -/
def readFrom (spec : CommandSpec) :
    Option OptionSpec → Arguments → List String → Except EarlyExit Arguments
  | none, arguments, [] => .ok arguments
  | some _, _, [] => .error .usage
  | some option, arguments, value :: rest =>
    if looksLikeOption value then .error .usage
    else (addOption arguments option value).bind fun next => readFrom spec none next rest
  | none, arguments, "--" :: rest => spec.addPositionals arguments rest
  | none, arguments, argument :: rest =>
    if looksLikeOption argument then
      (spec.recognize argument.toList).bind fun (option, joined?) =>
        match option.accepts?, joined? with
        | none, some _ => .error .usage
        | some _, none => readFrom spec (some option) arguments rest
        | _, _ =>
          (addOption arguments option (joined?.getD "")).bind fun next =>
            readFrom spec none next rest
    else if spec.subcommands.isEmpty then
      (spec.addPositional arguments argument).bind fun next => readFrom spec none next rest
    else if spec.subcommands.contains argument then
      .ok { arguments with subcommand? := some (argument, rest) }
    else if argument = "help" && spec.explains rest then .error .help
    else .error .usage

/-- Reads a whole command line: positional arguments or a subcommand must not be missing. -/
def read (spec : CommandSpec) (arguments : List String) : Except EarlyExit Arguments := do
  let result ← spec.readFrom none .empty arguments
  if result.positionals.length < spec.required then throw .usage
  if !spec.subcommands.isEmpty && result.subcommand?.isNone then throw .usage
  return result

end CommandSpec

end MeshLog
