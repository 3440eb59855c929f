import Reckoner.Http.Cors
import Reckoner.Http.Route

/-!
Layers around the routes. A layer makes a handler of the one inside it: it may change a call on the
way in and the reply on the way out, or reply by itself.
-/
namespace Reckoner.Http

/-- A request on its way in, with what the layers have said about it. -/
structure Call where
  request : Request
  /-- After how many milliseconds there is enough of the body to be read, if there ever is. -/
  arrival : Option Nat
  /-- How many bytes of a body are read: two megabytes unless a layer says otherwise. -/
  bodyLimit : UInt64 := 2097152

/-- A response, and after how many milliseconds there is one, if there ever is. -/
structure Reply where
  response : Response
  time : Option Nat

abbrev Handler := Call → Reply

abbrev Layer := Handler → Handler

def idName : String := "x-request-id"

/-- The request keeps the id that it came with, or else gets a fresh one. -/
def Request.identified (request : Request) (freshId : String) : Request :=
  match request.headers.first? idName with
  | some _ => request
  | none => { request with headers := request.headers ++ [(idName, freshId)] }

theorem Request.identified_of_id {request : Request} {freshId id : String}
    (h : request.headers.first? idName = some id) : request.identified freshId = request := by
  rw [identified, h]

theorem Request.identified_of_no_id {request : Request} {freshId : String}
    (h : request.headers.first? idName = none) : request.identified freshId =
      { request with headers := request.headers ++ [(idName, freshId)] } := by
  rw [identified, h]

/-- A response that has no id gets the one of the request. -/
def Response.carryId (response : Response) (request : Request) : Response :=
  match response.headers.first? idName with
  | some _ => response
  | none => response.addHeaders (CorsPolicy.field idName (request.headers.first? idName))

theorem Response.carryId_of_id {response : Response} {request : Request} {id : String}
    (h : response.headers.first? idName = some id) : response.carryId request = response := by
  rw [carryId, h]

theorem Response.carryId_of_no_id {response : Response} {request : Request}
    (h : response.headers.first? idName = none) : response.carryId request =
      response.addHeaders (CorsPolicy.field idName (request.headers.first? idName)) := by
  rw [carryId, h]

/-- Whether an answer after so much time is in time. -/
def inTime (limitMs : UInt64) (time : Option Nat) : Bool := time.any (· ≤ limitMs.toNat)

@[simp]
theorem inTime_zero (limitMs : UInt64) : inTime limitMs (some 0) = true := by
  simp [inTime]

/-- The response to a preflight request, whatever its path. -/
def CorsPolicy.preflight (policy : CorsPolicy) (request : Request) : Response :=
  let routing := (request.route?.map Route.refusalHeaders).getD request.unroutedHeaders
  ⟨200, policy.preflightHeaders ++ routing, ""⟩

namespace Layer

variable {policy : CorsPolicy} {limitMs : UInt64} {inner : Handler} {call : Call}

/-- Replies to every `OPTIONS` request by itself, as to a preflight request. On all responses it
says who may read them. -/
def cors (policy : CorsPolicy) : Layer := fun inner call =>
  let reply :=
    if call.request.method = "OPTIONS" then ⟨policy.preflight call.request, some 0⟩ else inner call
  { reply with
    response := reply.response.addHeaders
      (policy.responseHeaders (call.request.headers.first? "origin")) }

theorem cors_of_options (h : call.request.method = "OPTIONS") :
    cors policy inner call = ⟨(policy.preflight call.request).addHeaders
      (policy.responseHeaders (call.request.headers.first? "origin")), some 0⟩ := by
  rw [cors, if_pos h]

theorem cors_of_other (h : call.request.method ≠ "OPTIONS") :
    cors policy inner call = ⟨(inner call).response.addHeaders
      (policy.responseHeaders (call.request.headers.first? "origin")), (inner call).time⟩ := by
  rw [cors, if_neg h]

def bodyLimit (bytes : UInt64) : Layer := fun inner call => inner { call with bodyLimit := bytes }

/-- The response when there is none in time. -/
def timedOut : Response := ⟨504, [("content-length", "0")], ""⟩

/-- Does not wait any longer than so many milliseconds for the reply. -/
def timeout (limitMs : UInt64) : Layer := fun inner call =>
  if inTime limitMs (inner call).time then inner call else ⟨timedOut, some limitMs.toNat⟩

theorem timeout_of_inTime (h : inTime limitMs (inner call).time = true) :
    timeout limitMs inner call = inner call := by
  rw [timeout, if_pos h]

theorem timeout_of_late (h : inTime limitMs (inner call).time = false) :
    timeout limitMs inner call = ⟨timedOut, some limitMs.toNat⟩ := by
  rw [timeout, if_neg (Bool.eq_false_iff.mp h)]

/-- Tells the log about the call and the reply, and leaves both as they are. -/
def trace : Layer := fun inner call => inner call

/-- Puts the id of the request on a response that has none. -/
def propagateId : Layer := fun inner call =>
  { inner call with response := (inner call).response.carryId call.request }

/-- Sees to it that the request has an id. -/
def setId (freshId : String) : Layer := fun inner call =>
  inner { call with request := call.request.identified freshId }

/-- A row of layers as one, the inner ones first. -/
def stack (layers : List Layer) : Layer := fun inner =>
  layers.foldl (fun handler layer => layer handler) inner

theorem stack_append (layers outer : List Layer) (inner : Handler) :
    stack (layers ++ outer) inner = stack outer (stack layers inner) := List.foldl_append

end Layer
end Reckoner.Http
