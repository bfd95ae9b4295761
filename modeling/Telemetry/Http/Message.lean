/-! # Requests and responses

As much of HTTP as the routers need: a request is a method with a target, a
response a status with a body and its content type.  Pages answer to `GET`, and
to `HEAD` with the same head and no body.
-/

namespace Telemetry.Http

/-- A request without body. -/
structure Request where
  method : String
  path : String
  query : Option String
deriving DecidableEq

/-- A response; one without a content type has no body. -/
structure Response where
  status : Nat
  contentType : Option String
  body : String
deriving DecidableEq

namespace Request

/-- A request for a target: a path, perhaps followed by a query behind the first
question mark.  What follows a number sign stays with the client. -/
def ofTarget (method target : String) : Request :=
  let sent := target.toList.takeWhile (· ≠ '#')
  let path := String.ofList (sent.takeWhile (· ≠ '?'))
  match sent.dropWhile (· ≠ '?') with
  | _ :: query => ⟨method, path, some (String.ofList query)⟩
  | [] => ⟨method, path, none⟩

end Request

namespace Response

/-- A plain text. -/
def text (status : Nat) (body : String) : Response :=
  ⟨status, some "text/plain; charset=utf-8", body⟩

/-- A JSON document. -/
def json (body : String) : Response := ⟨200, some "application/json", body⟩

/-- A response without content. -/
def bare (status : Nat) : Response := ⟨status, none, ""⟩

/-- What is sent to a request: the body goes with every method but `HEAD`. -/
def sentTo (r : Response) (request : Request) : Response :=
  if request.method = "HEAD" then { r with body := "" } else r

end Response

/-- The page that a request reaches, or the refusal: paths count as they are
written, and a page knows no methods but its two. -/
def Request.route {α : Type} (request : Request) (pages : List (String × α)) :
    Except Response α :=
  match pages.lookup request.path with
  | none => .error (.bare 404)
  | some page =>
    if request.method = "GET" || request.method = "HEAD" then .ok page else .error (.bare 405)

end Telemetry.Http
