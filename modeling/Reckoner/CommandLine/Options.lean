/-! What can be asked for on the command line. -/
namespace Reckoner.CommandLine

structure Options where
  configPath : Option String := none
  port : Option UInt16 := none
  /-- Print the settings in effect and do nothing else. -/
  printConfig : Bool := false
  verbosity : Nat := 0
  deriving DecidableEq, Repr

inductive Command where
  | run | check
  deriving DecidableEq, Repr

namespace Command

def name : Command → String
  | run => "run"
  | check => "check"

def summary : Command → String
  | run => "Start the server"
  | check => "Validate configuration and exit"

def ofName? : String → Option Command
  | "run" => some run
  | "check" => some check
  | _ => none

end Command

/-- What can be read about the program. -/
inductive Notice where
  | version
  | help
  | commandHelp (command : Command)
  /-- Help about the command that shows help. -/
  | helpHelp
  deriving DecidableEq, Repr

inductive Intent where
  | notice (notice : Notice)
  | command (options : Options) (command : Command)
  deriving DecidableEq, Repr

end Reckoner.CommandLine
