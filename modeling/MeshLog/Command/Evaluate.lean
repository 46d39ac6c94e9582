import MeshLog.Command.Basic

/-!
# The evaluation command

Evaluates the logs of a run and writes its reports. Settings come from a configuration file, if one
is named, and from the command line.
-/

namespace MeshLog.EvaluateCommand

def program : String := "rpl-logeval"

def spec : CommandSpec where
  options := [
    ⟨"config", some 'c', some Argument.path⟩,
    ⟨"variant", none, some fun value => (Variant.ofName? value).isSome⟩,
    ⟨"json", none, some Argument.path⟩,
    ⟨"no-files", none, none⟩] ++ commonOptions
  positionals := [
    Argument.text, Argument.text, fun value => (Argument.nodeId? value).isSome,
    fun value => (Argument.flag? value).isSome]
  required := 0
  hasVersion := true
  subcommands := []

def overrides (arguments : Arguments) : Overrides where
  variant? := (arguments.option? "variant").bind Variant.ofName?
  logDirectory? := arguments.option? "log-dir"
  scheduler? := arguments.positional? 0
  iteration? := arguments.positional? 1
  headerId? := (arguments.positional? 2).bind Argument.nodeId?
  showAll? := (arguments.positional? 3).bind Argument.flag?
  json? := arguments.option? "json"
  noFiles := arguments.flag "no-files"

/-- A configuration, completed by overrides and validated. -/
def complete (base : Except Failure RunConfig) (settings : Overrides) :
    Except Failure RunConfig := do
  match (← base).complete settings with
  | .ok config => return config
  | .error error => throw (.ofConfig error)

/-- The configuration in the file that the command line names, or the standard one. -/
def baseConfig {m : Type → Type} [Monad m] (read : FileReader m) :
    Option String → m (Except Failure RunConfig)
  | some path => do return readConfig (← readAll read [path]) path
  | none => return .ok .standard

def config {m : Type → Type} [Monad m] (read : FileReader m) (arguments : Arguments) :
    m (Except Failure RunConfig) := do
  let base ← baseConfig read (arguments.option? "config")
  return complete base (overrides arguments)

def script {m : Type → Type} [Monad m] (read : FileReader m) (commandLine : List String) :
    m Script := do
  match spec.read commandLine with
  | .error exit => return .early program exit
  | .ok arguments =>
    match ← config read arguments with
    | .error error => return .failure [] error
    | .ok config =>
      let files ← readRun read config
      return .ofResult (Run.ofConfig config files) Run.script

end MeshLog.EvaluateCommand
