import Reckoner.Http.Header
import Reckoner.Json.Writer

/-! HTTP requests and responses. -/
namespace Reckoner.Http

structure Request where
  method : String
  target : String
  headers : Headers
  body : List UInt8
  deriving DecidableEq, Repr

structure Response where
  status : Nat
  headers : Headers
  body : String
  deriving DecidableEq, Repr

/-- The path of a target. Scheme and authority may stand in front of it, a query or a fragment
behind it. An authority by itself has no path, and neither has an asterisk. -/
def Request.path? (request : Request) : Option String :=
  let cs := request.target.toList.takeWhile fun c => c != '?' && c != '#'
  match cs with
  | '/' :: _ => some (String.ofList cs)
  | _ =>
    match cs.dropWhile (· != ':') with
    | ':' :: '/' :: '/' :: rest =>
      let path := rest.dropWhile (· != '/')
      some (if path.isEmpty then "/" else String.ofList path)
    | _ => none

namespace Response

/-- A response with a body, whose length is in bytes. -/
def text (status : Nat) (mediaType body : String) : Response :=
  ⟨status, [("content-type", mediaType), ("content-length", body.utf8ByteSize.repr)], body⟩

def json (status : Nat) (value : Document) : Response :=
  text status "application/json" (Json.write value)

def addHeaders (response : Response) (headers : Headers) : Response :=
  { response with headers := response.headers ++ headers }

end Response
end Reckoner.Http
