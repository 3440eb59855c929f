import Reckoner.Limits
import Reckoner.SocketAddress.Reader
import Reckoner.SocketAddress.Writer

/-! Settings of the server, what is asked of them, and the override of the port. -/
namespace Reckoner

structure ServerSettings where
  bindAddress : String := "127.0.0.1:5000"
  requestTimeoutMs : UInt64 := 5000
  bodyLimitBytes : UInt64 := 16384
  deriving DecidableEq, Repr

/-- What other sites may ask. An entry `*` of a list stands for all. -/
structure CorsSettings where
  enabled : Bool := true
  allowedOrigins : List String := ["*"]
  allowedMethods : List String := ["GET", "POST", "OPTIONS"]
  allowedHeaders : List String := ["content-type"]
  allowCredentials : Bool := false
  maxAgeSeconds : UInt64 := 600
  deriving DecidableEq, Repr

inductive LogFormat where
  | text | json
  deriving DecidableEq, Repr

structure LoggingSettings where
  consoleLevel : String := "info"
  format : LogFormat := .text
  deriving DecidableEq, Repr

structure Settings where
  server : ServerSettings := {}
  cors : CorsSettings := {}
  logging : LoggingSettings := {}
  limits : Limits := {}
  deriving DecidableEq, Repr

/-- Why settings cannot be had or used. -/
inductive SettingsError where
  | missingFile (path : String)
  | unreadable
  | badAddress (text : String)
  | zero (field : String)
  | credentialsForAll
  | limit (fault : Limits.Fault)
  deriving DecidableEq, Repr

def SettingsError.message : SettingsError → String
  | missingFile path => "config file does not exist: " ++ path
  | unreadable => "failed to parse configuration"
  | badAddress text => "Invalid bind address '" ++ text ++ "': invalid socket address syntax"
  | zero field => field ++ " must be greater than zero"
  | credentialsForAll =>
    "CORS misconfiguration: allowed_origins=['*'] cannot be combined with allow_credentials=true"
  | limit fault => fault.message

namespace ServerSettings

def socketAddress (server : ServerSettings) : Except SettingsError SocketAddress :=
  match SocketAddress.ofText? server.bindAddress with
  | some address => .ok address
  | none => .error (.badAddress server.bindAddress)

end ServerSettings

namespace CorsSettings

/-- Credentials are never for everybody. -/
def allowsCredentialsForAll (cors : CorsSettings) : Bool :=
  cors.allowCredentials && cors.allowedOrigins.contains "*"

end CorsSettings

namespace Settings

/-- The first thing wrong with the settings, from the address to the limits. -/
def validate (settings : Settings) : Except SettingsError Unit := do
  let _ ← settings.server.socketAddress
  if settings.server.requestTimeoutMs = 0 then throw (.zero "server.request_timeout_ms")
  if settings.server.bodyLimitBytes = 0 then throw (.zero "server.body_limit_bytes")
  if settings.cors.allowsCredentialsForAll then throw .credentialsForAll
  settings.limits.validate.mapError .limit

/-- Writes the address anew with another port; without one nothing changes. -/
def overridePort (settings : Settings) : Option UInt16 → Except SettingsError Settings
  | none => .ok settings
  | some port => do
    let address ← settings.server.socketAddress
    return { settings with
      server := { settings.server with bindAddress := (address.withPort port).text } }

end Settings
end Reckoner
