import Reckoner.Http.Description
import Reckoner.Http.Layers
import Reckoner.Http.MediaType
import Reckoner.Http.Payload
import Reckoner.Text.Utf8

/-!
The service over HTTP: the value of an expression is asked for at `/evaluate`, the other paths tell
that the service is up and what it offers. Around the routes stand the layers.
-/
namespace Reckoner.Http

/-- Why the body of a request is not an evaluation request. -/
inductive BodyError where
  | mediaType
  | tooLong
  | payload (error : PayloadError)
  deriving DecidableEq, Repr

namespace BodyError

def status : BodyError → Nat
  | mediaType => 415
  | tooLong => 413
  | payload .malformed => 400
  | payload .wrongKind => 422

/-- What is said of a body with this error, but for what there is about it and where. -/
def summary : BodyError → String
  | mediaType => "Expected request with `Content-Type: application/json`"
  | tooLong => "Failed to buffer the request body"
  | payload .malformed => "Failed to parse the request body as JSON"
  | payload .wrongKind => "Failed to deserialize the JSON body into the target type"

end BodyError

/-- What is said of a body that is refused. It is in the words of those who read the body, with
the place of the mistake or without. -/
abbrev Complaint := BodyError → List UInt8 → String

namespace Request

def hasJsonType (request : Request) : Bool :=
  ((request.headers.first? "content-type").bind MediaType.ofText?).any MediaType.isJson

/-- The expression in a body of at most `limit` bytes. -/
def expression (request : Request) (limit : UInt64) : Except BodyError String :=
  if !request.hasJsonType then .error .mediaType
  else if limit.toNat < request.body.length then .error .tooLong
  else (readExpression (Text.symbols request.body)).mapError .payload

/-- An evaluation has to wait for the body, unless its type is wrong already. -/
def readsBody (request : Request) : Bool :=
  request.route? = some .evaluation && request.method = "POST" && request.hasJsonType

end Request

/-! The routes, without any layer. -/

variable (limits : Limits) (complaint : Complaint)

def evaluate (call : Call) : Response :=
  match call.request.expression call.bodyLimit with
  | .error error =>
    .json error.status
      (errorPayload ("invalid request body: " ++ complaint error call.request.body))
  | .ok expression =>
    match limits.evaluate expression with
    | .ok value => .json 200 (resultPayload value)
    | .error rejection => .json (statusOf rejection) (errorPayload rejection.message)

/-- What a route gives for one of its methods. -/
def serve (call : Call) : Route → Response
  | .evaluation => evaluate limits complaint call
  | .health => .json 200 (.table [("status", .text "ok")])
  | .liveness => .text 200 "text/plain; charset=utf-8" "ok"
  | .description => .json 200 Description.service

def answer (call : Call) : Response :=
  match call.request.route? with
  | none => ⟨404, call.request.unroutedHeaders, ""⟩
  | some route =>
    if route.methods.contains call.request.method then
      let response := serve limits complaint call route
      if call.request.method = "HEAD" then { response with body := "" } else response
    else ⟨405, route.refusalHeaders, ""⟩

/-- Nothing takes time but the body. -/
def routes : Handler := fun call =>
  ⟨answer limits complaint call, if call.request.readsBody then call.arrival else some 0⟩

structure Router where
  limits : Limits
  bodyLimitBytes : UInt64
  requestTimeoutMs : UInt64
  /-- Without a policy responses say nothing about other origins. -/
  cors : Option CorsPolicy
  deriving DecidableEq, Repr

namespace Router

/-- The layers, the inner ones first. -/
def layers (router : Router) (freshId : String) : List Layer :=
  (router.cors.map Layer.cors).toList ++
    [Layer.bodyLimit router.bodyLimitBytes, Layer.timeout router.requestTimeoutMs, Layer.trace,
      Layer.propagateId, Layer.setId freshId]

def handler (router : Router) (freshId : String) (complaint : Complaint) : Handler :=
  Layer.stack (router.layers freshId) (routes router.limits complaint)

/-- The response to a request whose body is there after some time. A request that comes without an
id gets the fresh one. -/
def respond (router : Router) (freshId : String) (request : Request)
    (arrival : Option Nat := some 0) (complaint : Complaint := fun error _ => error.summary) :
    Response :=
  (router.handler freshId complaint { request, arrival }).response

end Router
end Reckoner.Http
