import Reckoner.Settings.Document
import Reckoner.Settings.Environment
import Reckoner.Settings.Wrapped
import Reckoner.Yaml.Reader

/-!
Settings from layers: the defaults, a YAML file over them, and environment variables over both.
Tables are merged key by key; of everything else the later layer replaces the earlier. Any reader
of YAML will do; unless another one is given it is the one of this library, which knows block and
flow collections with scalars in one document.
-/
namespace Reckoner

namespace Document

mutual

def merge : Document → Document → Document
  | table lower, table upper => table (mergeEntries lower upper)
  | _, upper => upper

def mergeEntries : List (String × Document) → List (String × Document) → List (String × Document)
  | [], upper => upper
  | (key, value) :: lower, upper =>
    match upper.lookup key with
    | some later => (key, merge value later) :: mergeEntries lower (upper.filter (·.1 != key))
    | none => (key, value) :: mergeEntries lower upper

end

end Document

/-- Gives the entries of the table that a text is in YAML. -/
abbrev YamlReader := String → Option (List (String × Document))

/-- The file that settings are read from. -/
inductive SettingsFile where
  | unnamed
  /-- There is no file of this name. -/
  | missing (path : String)
  /-- Its bytes are not all characters. -/
  | illegible
  | text (content : String)
  deriving DecidableEq, Repr

namespace SettingsFile

def layer (yaml : YamlReader) : SettingsFile → Except SettingsError Document
  | unnamed => .ok (.table [])
  | missing path => .error (.missingFile path)
  | illegible => .error .unreadable
  | text content =>
    match (yaml content).bind Document.settingsEntries? with
    | some entries => .ok (.table entries)
    | none => .error .unreadable

end SettingsFile

namespace Environment

/-- What the variables set, the later ones over the earlier. -/
def layer (environment : List (String × String)) : Document :=
  environment.foldl
    (fun layer (name, value) =>
      match path? name with
      | some path => layer.merge (nest (readValue value) path)
      | none => layer)
    (.table [])

end Environment

namespace Settings

/-- Defaults, file and variables, one over the other. -/
def mergeLayers (file : Document) (environment : List (String × String)) : Document :=
  ((document {}).merge file).merge (Environment.layer environment)

def load (file : SettingsFile) (environment : List (String × String))
    (yaml : YamlReader := Yaml.readTable?) : Except SettingsError Settings := do
  let fileLayer ← file.layer yaml
  match ofDocument? .ignored (mergeLayers fileLayer environment) with
  | some settings => do
    settings.validate
    return settings
  | none => throw .unreadable

end Settings
end Reckoner
