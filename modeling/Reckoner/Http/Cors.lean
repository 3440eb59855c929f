import Reckoner.Http.Message
import Reckoner.Settings.Basic

/-!
Cross-origin resource sharing: which other sites may read the responses, and what they may send.
-/
namespace Reckoner.Http

/-- All names, or those listed. -/
inductive Allowance where
  | all
  | only (names : List String)
  deriving DecidableEq, Repr

/-- A wildcard among the names allows all. Otherwise names that cannot be used are left out. -/
def Allowance.ofNames (usable? : String → Option String) (names : List String) : Allowance :=
  if names.contains "*" then all else only (names.filterMap usable?)

/-- The names as the value of a header field, if there are any. -/
def Allowance.value? : Allowance → Option String
  | all => some "*"
  | only [] => none
  | only names => some (",".intercalate names)

structure CorsPolicy where
  origins : Allowance
  methods : Allowance
  headers : Allowance
  allowCredentials : Bool
  maxAgeSeconds : UInt64
  deriving DecidableEq, Repr

/-- Which wildcard a policy combines with credentials. -/
inductive CorsConflict where
  | headers
  | methods
  deriving DecidableEq, Repr

def CorsConflict.message (conflict : CorsConflict) : String :=
  let wildcard :=
    match conflict with
    | headers => "Access-Control-Allow-Headers: *"
    | methods => "Access-Control-Allow-Methods: *"
  "Invalid CORS configuration: Cannot combine `Access-Control-Allow-Credentials: true` with `"
    ++ wildcard ++ "`"

namespace CorsPolicy

def usableOrigin? (origin : String) : Option String :=
  if isFieldValue origin then some origin else none

def usableMethod? (method : String) : Option String :=
  if isToken method then some method else none

def usableHeader? (name : String) : Option String :=
  if isToken name then some name.toLower else none

def ofSettings (cors : CorsSettings) : Except SettingsError CorsPolicy :=
  if cors.allowsCredentialsForAll then .error .credentialsForAll
  else
    .ok {
      origins := .ofNames usableOrigin? cors.allowedOrigins
      methods := .ofNames usableMethod? cors.allowedMethods
      headers := .ofNames usableHeader? cors.allowedHeaders
      allowCredentials := cors.allowCredentials
      maxAgeSeconds := cors.maxAgeSeconds }

/-- Where credentials are allowed, headers and methods have to be listed. -/
def conflict? (policy : CorsPolicy) : Option CorsConflict :=
  if !policy.allowCredentials then none
  else if policy.headers = .all then some .headers
  else if policy.methods = .all then some .methods
  else none

/-- The origin that is told that it may read the response. -/
def grantedOrigin? (policy : CorsPolicy) (origin : Option String) : Option String :=
  match policy.origins with
  | .all => some "*"
  | .only names => origin.filter names.contains

/-- A header field that is left out when it has no value. -/
def field (name : String) (value : Option String) : Headers :=
  (value.map fun v => (name, v)).toList

/-- The fields on the response to a request from an origin. -/
def responseHeaders (policy : CorsPolicy) (origin : Option String) : Headers :=
  field "access-control-allow-origin" (policy.grantedOrigin? origin)
    ++ field "access-control-allow-credentials"
      (if policy.allowCredentials then some "true" else none)
    ++ [("vary", "origin, access-control-request-method, access-control-request-headers")]

/-- The further fields on the response to a preflight request, which asks what may be sent. -/
def preflightHeaders (policy : CorsPolicy) : Headers :=
  field "access-control-allow-methods" policy.methods.value?
    ++ field "access-control-allow-headers" policy.headers.value?
    ++ field "access-control-max-age"
      (if policy.maxAgeSeconds = 0 then none else some policy.maxAgeSeconds.toNat.repr)

end CorsPolicy
end Reckoner.Http
