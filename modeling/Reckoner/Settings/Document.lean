import Reckoner.Document
import Reckoner.Settings.Basic

/-!
Settings as a data document and back.

A section is a table of its fields, or a list of their values from the first on; what is left out
has its default. A field that is not known, a field given twice and a value of another kind are
refused.
-/
namespace Reckoner

namespace Document

def toText? : Document → Option String
  | text value => some value
  | _ => none

def toBool? : Document → Option Bool
  | bool value => some value
  | _ => none

def toWord? : Document → Option UInt64
  | natural value => if value < UInt64.size then some value.toUInt64 else none
  | negative 0 => some 0
  | _ => none

def toTexts? : Document → Option (List String)
  | list items => items.mapM toText?
  | _ => none

def ofTexts (texts : List String) : Document := list (texts.map text)

end Document

/-- What becomes of values in excess: those of a list for which there are no fields, and entries
beside the one that is looked for. -/
inductive Surplus where
  | refused | ignored
  deriving DecidableEq, Repr

/-- The fields of a section that are given. -/
def givenFields? (surplus : Surplus) (names : List String) :
    Document → Option (List (String × Document))
  | .table entries =>
    let keys := entries.map (·.1)
    if keys.all names.contains && keys.Nodup then some entries else none
  | .list items =>
    if surplus = .refused && names.length < items.length then none else some (names.zip items)
  | _ => none

/-- The value of a field, or its default if it is not given. -/
def fieldOr {α : Type} (default : α) (read? : Document → Option α) (name : String)
    (fields : List (String × Document)) : Option α :=
  match fields.lookup name with
  | some value => read? value
  | none => some default

namespace ServerSettings

def fieldNames : List String := ["bind_addr", "request_timeout_ms", "body_limit_bytes"]

def ofDocument? (surplus : Surplus) (d : Document) : Option ServerSettings := do
  let fields ← givenFields? surplus fieldNames d
  let default : ServerSettings := {}
  let bindAddress ← fieldOr default.bindAddress Document.toText? "bind_addr" fields
  let timeout ← fieldOr default.requestTimeoutMs Document.toWord? "request_timeout_ms" fields
  let bodyLimit ← fieldOr default.bodyLimitBytes Document.toWord? "body_limit_bytes" fields
  return ⟨bindAddress, timeout, bodyLimit⟩

def document (s : ServerSettings) : Document :=
  .table [("bind_addr", .text s.bindAddress),
    ("request_timeout_ms", .natural s.requestTimeoutMs.toNat),
    ("body_limit_bytes", .natural s.bodyLimitBytes.toNat)]

end ServerSettings

namespace CorsSettings

def fieldNames : List String :=
  ["enabled", "allowed_origins", "allowed_methods", "allowed_headers", "allow_credentials",
    "max_age_seconds"]

def ofDocument? (surplus : Surplus) (d : Document) : Option CorsSettings := do
  let fields ← givenFields? surplus fieldNames d
  let default : CorsSettings := {}
  let enabled ← fieldOr default.enabled Document.toBool? "enabled" fields
  let origins ← fieldOr default.allowedOrigins Document.toTexts? "allowed_origins" fields
  let methods ← fieldOr default.allowedMethods Document.toTexts? "allowed_methods" fields
  let headers ← fieldOr default.allowedHeaders Document.toTexts? "allowed_headers" fields
  let credentials ← fieldOr default.allowCredentials Document.toBool? "allow_credentials" fields
  let maxAge ← fieldOr default.maxAgeSeconds Document.toWord? "max_age_seconds" fields
  return ⟨enabled, origins, methods, headers, credentials, maxAge⟩

def document (s : CorsSettings) : Document :=
  .table [("enabled", .bool s.enabled),
    ("allowed_origins", .ofTexts s.allowedOrigins),
    ("allowed_methods", .ofTexts s.allowedMethods),
    ("allowed_headers", .ofTexts s.allowedHeaders),
    ("allow_credentials", .bool s.allowCredentials),
    ("max_age_seconds", .natural s.maxAgeSeconds.toNat)]

end CorsSettings

namespace LogFormat

def name : LogFormat → String
  | text => "text"
  | json => "json"

def ofName? : String → Option LogFormat
  | "text" => some text
  | "json" => some json
  | _ => none

/-- The entry of a table that tells the format: the one whose key comes first in order. -/
def tellingEntry? (surplus : Surplus) :
    List (String × Document) → Option (String × Document)
  | [] => none
  | entry :: rest =>
    if surplus = .refused && !rest.isEmpty then none
    else some (rest.foldl (fun first next => if next.1 < first.1 then next else first) entry)

/-- The name may stand by itself, or as the key of a table that has nothing for it. -/
def ofDocument? (surplus : Surplus) : Document → Option LogFormat
  | .text name => ofName? name
  | .table entries =>
    match tellingEntry? surplus entries with
    | some (name, .null) => ofName? name
    | _ => none
  | _ => none

end LogFormat

namespace LoggingSettings

def fieldNames : List String := ["console_level", "format"]

def ofDocument? (surplus : Surplus) (d : Document) : Option LoggingSettings := do
  let fields ← givenFields? surplus fieldNames d
  let default : LoggingSettings := {}
  let level ← fieldOr default.consoleLevel Document.toText? "console_level" fields
  let format ← fieldOr default.format (LogFormat.ofDocument? surplus) "format" fields
  return ⟨level, format⟩

def document (s : LoggingSettings) : Document :=
  .table [("console_level", .text s.consoleLevel), ("format", .text s.format.name)]

end LoggingSettings

namespace Limits

def fieldNames : List String := ["max_expression_len", "max_depth"]

def ofDocument? (surplus : Surplus) (d : Document) : Option Limits := do
  let fields ← givenFields? surplus fieldNames d
  let default : Limits := {}
  let length ← fieldOr default.maxExpressionLength Document.toWord? "max_expression_len" fields
  let depth ← fieldOr default.maxDepth Document.toWord? "max_depth" fields
  return ⟨length, depth⟩

def document (limits : Limits) : Document :=
  .table [("max_expression_len", .natural limits.maxExpressionLength.toNat),
    ("max_depth", .natural limits.maxDepth.toNat)]

end Limits

namespace Settings

def fieldNames : List String := ["server", "cors", "logging", "calculator"]

def ofDocument? (surplus : Surplus) (d : Document) : Option Settings := do
  let fields ← givenFields? surplus fieldNames d
  let default : Settings := {}
  let server ← fieldOr default.server (ServerSettings.ofDocument? surplus) "server" fields
  let cors ← fieldOr default.cors (CorsSettings.ofDocument? surplus) "cors" fields
  let logging ← fieldOr default.logging (LoggingSettings.ofDocument? surplus) "logging" fields
  let limits ← fieldOr default.limits (Limits.ofDocument? surplus) "calculator" fields
  return ⟨server, cors, logging, limits⟩

def document (s : Settings) : Document :=
  .table [("server", s.server.document), ("cors", s.cors.document),
    ("logging", s.logging.document), ("calculator", s.limits.document)]

end Settings
end Reckoner
