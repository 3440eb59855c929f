import Reckoner.CommandLine.Arguments
import Reckoner.CommandLine.Help
import Reckoner.Settings.Layers
import Reckoner.Startup

/-! What the program does with its arguments, the files that it can read and its environment. -/
namespace Reckoner.CommandLine

/-- What the program can see besides its arguments. -/
structure Surroundings where
  /-- The file at a path. -/
  file : String → SettingsFile
  environment : List (String × String)

/-- The value of a variable, which is the last if it is set more than once. -/
def Surroundings.valueOf? (s : Surroundings) (name : String) : Option String :=
  s.environment.reverse.lookup name

inductive Outcome where
  | printed (text : String)
  /-- All is ready to listen for requests. -/
  | listening (service : Service)
  deriving DecidableEq, Repr

inductive Failure where
  /-- The arguments cannot be understood. -/
  | misuse
  | start (error : StartError)
  deriving DecidableEq, Repr

def Failure.exitCode : Failure → UInt32
  | misuse => 2
  | start (.conflict _) | start (.logFilter .severed) => 101
  | start _ => 1

/-- The settings in effect: loaded, with the port replaced, and with a log filter to go by. -/
def Options.settings (options : Options) (s : Surroundings)
    (yaml : YamlReader := Yaml.readTable?) : Except StartError Settings := do
  let file := (options.configPath.map s.file).getD .unnamed
  let loaded ← (Settings.load file s.environment yaml).mapError .settings
  let settings ← (loaded.overridePort options.port).mapError .settings
  let _ ← (LogFilter.choose (s.valueOf? "RUST_LOG") options.verbosity
    settings.logging.consoleLevel).mapError .logFilter
  return settings

/-- A heading and the settings under it. -/
def report (heading : String) (settings : Settings) : String :=
  lines [heading, Json.writeIndented settings.document]

/-- To check is to make the router without listening. -/
def Command.execute (command : Command) (settings : Settings) : Except StartError Outcome := do
  match command with
  | .check =>
    let _ ← Http.Router.ofSettings settings
    return .printed (report "Configuration is valid" settings)
  | .run => return .listening (← Service.ofSettings settings)

/-- Settings are printed in place of any command. -/
def Options.execute (options : Options) (command : Command) (s : Surroundings)
    (yaml : YamlReader := Yaml.readTable?) : Except StartError Outcome := do
  let settings ← options.settings s yaml
  if options.printConfig then return .printed (report "Effective configuration:" settings)
  else command.execute settings

def Intent.execute (intent : Intent) (s : Surroundings)
    (yaml : YamlReader := Yaml.readTable?) : Except StartError Outcome :=
  match intent with
  | .notice wanted => .ok (.printed wanted.text)
  | .command options wanted => options.execute wanted s yaml

def execute (args : List String) (s : Surroundings)
    (yaml : YamlReader := Yaml.readTable?) : Except Failure Outcome :=
  match Intent.ofArguments? args with
  | none => .error .misuse
  | some intent => (intent.execute s yaml).mapError .start

end Reckoner.CommandLine
