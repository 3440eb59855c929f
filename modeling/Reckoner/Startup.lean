import Reckoner.Http.Router
import Reckoner.LogFilter

/-! From settings to a service that is ready to listen. -/
namespace Reckoner

/-- Why a service cannot be started. -/
inductive StartError where
  | settings (error : SettingsError)
  | logFilter (failure : LogFilter.Failure)
  | conflict (wildcard : Http.CorsConflict)
  deriving DecidableEq, Repr

def StartError.message : StartError → String
  | settings error => error.message
  | logFilter (.unusable text) => "invalid log level '" ++ text ++ "'"
  | logFilter .severed => "a part of the log filter does not end between characters"
  | conflict wildcard => wildcard.message

namespace Http.Router

/-- The router for settings, with this policy or without any. -/
def withPolicy (s : Settings) (cors : Option CorsPolicy) : Router :=
  ⟨s.limits, s.server.bodyLimitBytes, s.server.requestTimeoutMs, cors⟩

/-- Cross-origin settings count only if they are enabled. -/
def ofSettings (s : Settings) : Except StartError Router :=
  if s.cors.enabled then do
    let policy ← (CorsPolicy.ofSettings s.cors).mapError .settings
    match policy.conflict? with
    | some wildcard => .error (.conflict wildcard)
    | none => .ok (withPolicy s (some policy))
  else .ok (withPolicy s none)

end Http.Router

/-- A service and the address at which it listens. -/
structure Service where
  router : Http.Router
  address : SocketAddress
  deriving DecidableEq, Repr

/-- The router is made before the address is read. -/
def Service.ofSettings (s : Settings) : Except StartError Service := do
  let router ← Http.Router.ofSettings s
  let address ← s.server.socketAddress.mapError .settings
  return ⟨router, address⟩

end Reckoner
