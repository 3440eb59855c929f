import Reckoner.CommandLine.Options
import Reckoner.Text.Numeral

/-!
Reading the arguments of the command line.

Options stand in front of the command; of a row of short options only the last can have a value. The
value of an option stands behind it, perhaps with an equals sign between, or is the next argument;
there it is looked at only when the next option or the end of the arguments is reached. A request
for help or the version counts where it stands, whatever comes after.
-/
namespace Reckoner.CommandLine

/-- The options that have a value. -/
inductive Valued where
  | config | port
  deriving DecidableEq, Repr

/-- A port may have a sign and leading zeros. -/
def port? (text : String) : Option UInt16 :=
  let (negative, digits) :=
    match text.toList with
    | '-' :: digits => (true, digits)
    | '+' :: digits => (false, digits)
    | digits => (false, digits)
  match Text.natural? 10 digits with
  | some n => if n < UInt16.size && (!negative || n == 0) then some n.toUInt16 else none
  | none => none

/-- No option with a value can be given twice. -/
def Options.set? (options : Options) (option : Valued) (value : String) : Option Options :=
  match option with
  | .config =>
    if options.configPath.isNone && value != "" then some { options with configPath := some value }
    else none
  | .port => if options.port.isNone then (port? value).map fun p => { options with port := some p }
    else none

/-- An option whose value is wanted, or has been found but not looked at. -/
inductive Pending where
  | nothing
  | wanted (option : Valued)
  | found (option : Valued) (value : String)
  deriving DecidableEq, Repr

def Pending.settle? (pending : Pending) (options : Options) : Option Options :=
  match pending with
  | nothing => some options
  | wanted _ => none
  | found option value => options.set? option value

/-- The options after one argument and what is pending, or a notice that the argument asks for. -/
inductive Step where
  | next (options : Options) (pending : Pending)
  | notice (notice : Notice)
  deriving DecidableEq, Repr

/-- An option with the value that is attached to it, if there is one. -/
def Options.attach? (options : Options) (option : Valued) : Option String → Option Step
  | some value => (options.set? option value).map (.next · .nothing)
  | none => some (.next options (.wanted option))

def Options.printOnce? (options : Options) : Option Step :=
  if options.printConfig then none else some (.next { options with printConfig := true } .nothing)

def Options.raiseVerbosity (options : Options) : Options :=
  { options with verbosity := options.verbosity + 1 }

def Options.readLong? (options : Options) (name : String) (value : Option String) : Option Step :=
  match name, value with
  | "config", value => options.attach? .config value
  | "port", value => options.attach? .port value
  | "print-config", none => options.printOnce?
  | "verbose", none => some (.next options.raiseVerbosity .nothing)
  | "help", none => some (.notice .help)
  | "version", none => some (.notice .version)
  | _, _ => none

/-- What follows a short option that has a value. -/
def attachedValue? : List Char → Option String
  | [] => none
  | '=' :: value => some (String.ofList value)
  | value => some (String.ofList value)

def Options.readShort? (options : Options) : List Char → Option Step
  | [] => some (.next options .nothing)
  | 'c' :: rest => options.attach? .config (attachedValue? rest)
  | 'p' :: rest => options.attach? .port (attachedValue? rest)
  | 'v' :: rest => options.raiseVerbosity.readShort? rest
  | 'h' :: _ => some (.notice .help)
  | 'V' :: _ => some (.notice .version)
  | _ => none

/-- An argument of options, without the hyphen that it begins with. -/
def Options.read? (options : Options) : List Char → Option Step
  | '-' :: long =>
    let value :=
      match long.dropWhile (· != '=') with
      | '=' :: value => some (String.ofList value)
      | _ => none
    options.readLong? (String.ofList (long.takeWhile (· != '='))) value
  | short => options.readShort? short

/-- A hyphen alone is no option. -/
def isOption (arg : String) : Bool := arg.startsWith "-" && arg != "-"

/-- Behind a command nothing but a request for help about it is understood. -/
def readCommand? (options : Options) (pending : Pending) (command : Command) :
    List String → Option Intent
  | [] | ["--"] => (pending.settle? options).map (.command · command)
  | arg :: _ =>
    if arg == "--help" || arg.startsWith "-h" then some (.notice (.commandHelp command)) else none

/-- The notice that the command `help` shows for the names behind it. -/
def helpNotice? : List String → Option Notice
  | [] => some .help
  | ["help"] => some .helpHelp
  | [name] => (Command.ofName? name).map .commandHelp
  | _ => none

def readArguments? (options : Options) (pending : Pending) : List String → Option Intent
  | [] => (pending.settle? options).map (.command · .run)
  | arg :: rest =>
    if isOption arg then
      match pending.settle? options with
      | none => none
      | some options =>
        if arg = "--" then if rest.isEmpty then some (.command options .run) else none
        else
          match options.read? (arg.toList.drop 1) with
          | none => none
          | some (.notice notice) => some (.notice notice)
          | some (.next options pending) => readArguments? options pending rest
    else
      match pending with
      | .wanted option => readArguments? options (.found option arg) rest
      | _ =>
        if arg = "help" then (helpNotice? rest).map .notice
        else (Command.ofName? arg).bind fun command => readCommand? options pending command rest

/-- What the arguments ask for, if they can be understood. Without a command it is to run. -/
def Intent.ofArguments? (args : List String) : Option Intent := readArguments? {} .nothing args

end Reckoner.CommandLine
