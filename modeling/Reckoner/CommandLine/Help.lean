import Reckoner.CommandLine.Options

/-! Texts about the program and its command line. -/
namespace Reckoner.CommandLine

def programName : String := "calculator-server"

def helpSummary : String := "Print this message or the help of the given subcommand(s)"

def lines (texts : List String) : String := String.join (texts.map (· ++ "\n"))

def Notice.text : Notice → String
  | version => lines [programName ++ " 0.1.0"]
  | help => lines [
      "Calculator Server - arithmetic expression evaluation over HTTP",
      "",
      "Usage: " ++ programName ++ " [OPTIONS] [COMMAND]",
      "",
      "Commands:",
      "  run    " ++ Command.run.summary,
      "  check  " ++ Command.check.summary,
      "  help   " ++ helpSummary,
      "",
      "Options:",
      "  -c, --config <CONFIG>  Path to configuration file",
      "  -p, --port <PORT>      Port override for HTTP server (overrides config)",
      "      --print-config     Print effective configuration (JSON) and exit",
      "  -v, --verbose...       Log verbosity level (-v info, -vv debug, -vvv trace)",
      "  -h, --help             Print help",
      "  -V, --version          Print version"]
  | commandHelp command => lines [
      command.summary,
      "",
      "Usage: " ++ programName ++ " " ++ command.name,
      "",
      "Options:",
      "  -h, --help  Print help"]
  | helpHelp => lines [
      helpSummary,
      "",
      "Usage: " ++ programName ++ " help [COMMAND]...",
      "",
      "Arguments:",
      "  [COMMAND]...  Print help for the subcommand(s)"]

end Reckoner.CommandLine
