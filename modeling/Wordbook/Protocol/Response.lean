import Wordbook.Json.Write
import Wordbook.Session

/-!
# Responses

Each request is answered by one JSON object:

* success: `id`, `status` `"ok"` and the command's `payload`;
* failure: `id`, `status` `"error"`, a `kind` naming the failure and a `message`;
* a line that is not JSON at all: `status` `"error"` and the message `invalid json`, without
  `id` or `kind`.
-/

namespace Wordbook.Protocol

open Json

/-- The answer to one request line. -/
inductive Response where
  | ok (id : Value) (payload : Value)
  | failure (id : Value) (kind : String) (message : String)
  | unreadable

namespace Response

/-- The response to a failed session operation. -/
def ofError (id : Value) (e : SessionError) : Response := .failure id e.kind e.message

/-- The response to a request that is refused before anything happens. -/
def invalidRequest (id : Value) (message : String) : Response :=
  .failure id "invalid_request" message

/-- The JSON object of a response. -/
def toValue : Response → Value
  | .ok id payload =>
    Value.ofFields [("id", id), ("status", .string "ok"), ("payload", payload)]
  | .failure id kind message =>
    Value.ofFields [("id", id), ("status", .string "error"), ("kind", .string kind),
      ("message", .string message)]
  | .unreadable =>
    Value.ofFields [("status", .string "error"), ("message", .string "invalid json")]

/-- The response line. -/
def render (r : Response) : String := r.toValue.render

/-- Whether the response reports a failure. -/
def isFailure : Response → Bool
  | .ok .. => false
  | _ => true

end Response

end Wordbook.Protocol
