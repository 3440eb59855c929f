import Reckoner.CommandLine.Execution

/-! The program: it hands its arguments, settings file and environment to the library and prints
what comes of them. Connections are left to a host of the library; the program ends before it would
listen. -/
namespace Reckoner.CommandLine

/-- A file that cannot be read is taken for missing. -/
def readSettingsFile (path : String) : IO SettingsFile := do
  try
    let bytes ← IO.FS.readBinFile path
    match String.fromUTF8? bytes with
    | some content => return .text content
    | none => return .illegible
  catch _ => return .missing path

/-- The entries of an environment, each of which ends in a zero byte. -/
def splitEnvironment (bytes : List UInt8) : List (String × String) :=
  (bytes.splitOn 0).filterMap fun entry => do
    let text ← String.fromUTF8? (ByteArray.mk entry.toArray)
    match text.toList.span (· != '=') with
    | (name, '=' :: value) => some (String.ofList name, String.ofList value)
    | _ => none

def readEnvironment : IO (List (String × String)) := do
  try return splitEnvironment (← IO.FS.readBinFile "/proc/self/environ").toList
  catch _ => return []

def readSurroundings (args : List String) : IO Surroundings := do
  let environment ← readEnvironment
  match Intent.ofArguments? args with
  | some (.command ⟨some path, _, _, _⟩ _) =>
    let file ← readSettingsFile path
    return ⟨fun _ => file, environment⟩
  | _ => return ⟨fun _ => .unnamed, environment⟩

end Reckoner.CommandLine

def main (args : List String) : IO UInt32 := do
  match Reckoner.CommandLine.execute args (← Reckoner.CommandLine.readSurroundings args) with
  | .ok (.printed text) =>
    IO.print text
    return 0
  | .ok (.listening service) =>
    IO.eprintln ("ready to listen at " ++ service.address.text)
    return 0
  | .error failure =>
    match failure with
    | .misuse => IO.eprintln "error: the arguments are not understood; see --help"
    | .start error => IO.eprintln ("Error: " ++ error.message)
    return failure.exitCode
