import Reckoner.Http.Message

/-! What can be asked of the service, by path and method. -/
namespace Reckoner.Http

inductive Route where
  | evaluation | health | liveness | description
  deriving DecidableEq, Repr

namespace Route

def ofPath? : String → Option Route
  | "/evaluate" => some evaluation
  | "/health" => some health
  | "/healthz" => some liveness
  | "/openapi.json" => some description
  | _ => none

/-- Where `GET` may be used so may `HEAD`, which gives the same without the body. -/
def methods : Route → List String
  | evaluation => ["POST"]
  | _ => ["GET", "HEAD"]

/-- The methods that may be used, as the value of a header field. -/
def allow (route : Route) : String := ",".intercalate route.methods

/-- The fields on an empty response of the route to another method. -/
def refusalHeaders (route : Route) : Headers := [("allow", route.allow), ("content-length", "0")]

end Route

namespace Request

def route? (request : Request) : Option Route := request.path?.bind Route.ofPath?

/-- The fields on an empty response where there is no route. It tells its length if not even a path
is named. -/
def unroutedHeaders (request : Request) : Headers :=
  if request.path?.isNone then [("content-length", "0")] else []

end Request
end Reckoner.Http
