import Remit.Json.Read
import Remit.Processing
import Remit.Service.Body
import Remit.Settings
import Remit.Text.Encoding

/-!
# The service

The service answers HTTP requests: instructions are posted to `/payment-instructions`, and `/` and
`/health` report that the service is up. `Service.handle` is the whole of it. The day and the time
of a request are given, so the answer depends on nothing else.
-/

namespace Remit

/-- An HTTP request, as far as the service looks at it. -/
structure HttpRequest where
  method : Text
  /-- The path, possibly with a query after a question mark. -/
  path : Text
  body : List UInt8

/-- An HTTP response. -/
structure HttpResponse where
  status : Nat
  contentType : String
  body : Text
  deriving DecidableEq

namespace HttpResponse

/-- The response to a request that the service could not complete. -/
def serverError : HttpResponse :=
  ⟨500, "text/plain; charset=utf-8", "Internal Server Error".toList⟩

/-- A response with a JSON body. A value that cannot be written is a server error. -/
def ofJson (status : Nat) (value : Json) : HttpResponse :=
  if value.isWritable then ⟨status, "application/json", value.write⟩ else serverError

/-- A response that only states what is wrong with the request. -/
def detail (status : Nat) (message : String) : HttpResponse :=
  ofJson status (.ofMembers [("detail", .word message)])

end HttpResponse

namespace Service

/-! ## Payment instructions -/

/-- The number of lists and objects that may be open at once in a request body. -/
def nestingLimit : Nat := 960

/-- The JSON value of a request body. Bytes that are no text and texts that are no JSON count as
null; integers that are too long and values nested too deep are errors. -/
def readBody (standIn : Char) (body : List UInt8) : Except ReadError Json :=
  match Text.decode? standIn body with
  | none => .ok .null
  | some t => match Json.read nestingLimit standIn t with
    | .error .malformed => .ok .null
    | result => result

/-- The HTTP status that goes with the status of a response. -/
def httpStatus : Status → Nat
  | .successful | .pending => 200
  | .failed => 400

/-- The answer to a posted instruction in which a given character stands in for surrogates without
a partner. -/
def answerWith (standIn : Char) (settings : Settings) (today : Date) (body : List UInt8) :
    HttpResponse :=
  match readBody standIn body with
  | .error _ => .serverError
  | .ok payload =>
    let response := process settings.supportedCurrencies today payload
    .ofJson (httpStatus response.status) response.toJson

/-- Answers a posted instruction. A surrogate without its partner may stand in a request, but it
cannot be sent back: an answer that would show one, and so depends on what stands in for it, is a
server error. -/
def postInstruction (settings : Settings) (today : Date) (body : List UInt8) : HttpResponse :=
  let answer := answerWith '\ufffd' settings today body
  if answerWith '\ufffe' settings today body = answer then answer else .serverError

/-! ## Reports -/

/-- The report on the health of the service. -/
def healthReport (settings : Settings) (timestamp : Text) : Json :=
  .ofMembers [
    ("status", .word "healthy"),
    ("supported_currencies", .list (settings.supportedCurrencies.map .text)),
    ("timestamp", .text timestamp),
    ("service", .text settings.projectName),
    ("version", .text settings.version)]

/-- The report at the root of the service. -/
def rootReport (settings : Settings) (timestamp : Text) : Json :=
  .ofMembers [
    ("message", .word "Payment Instruction Processor"),
    ("status", .word "operational"),
    ("version", .text settings.version),
    ("timestamp", .text timestamp)]

/-! ## Routes -/

/-- What a path leads to. -/
inductive Route where
  | instructions
  | health
  | root
  deriving DecidableEq

/-- The route of a path without its query. -/
def Route.ofPath? (path : Text) : Option Route :=
  if path = "/payment-instructions".toList then some .instructions
  else if path = "/health".toList then some .health
  else if path = "/".toList then some .root
  else none

/-- The one method that a route takes. -/
def Route.method : Route → Text
  | instructions => "POST".toList
  | health | root => "GET".toList

/-- Answers a request that arrives on the given day and at the given time. -/
def handle (settings : Settings) (today : Date) (timestamp : Text) (request : HttpRequest) :
    HttpResponse :=
  match Route.ofPath? (request.path.takeWhile (· ≠ '?')) with
  | none => .detail 404 "Not Found"
  | some route =>
    if request.method ≠ route.method then .detail 405 "Method Not Allowed"
    else match route with
      | .instructions => postInstruction settings today request.body
      | .health => .ofJson 200 (healthReport settings timestamp)
      | .root => .ofJson 200 (rootReport settings timestamp)

end Service
end Remit
