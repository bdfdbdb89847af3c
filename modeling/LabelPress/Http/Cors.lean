import LabelPress.Http.Message
import LabelPress.Text.Blank
import LabelPress.Text.Search

/-!
# Calls from other origins

A browser says from which origin a call comes. If that origin is allowed, the response names it,
and the browser hands the response over; an asterisk among the allowed origins allows every
origin. Before an unusual call a browser asks first whether the origin, the method and the headers
are allowed.

## Main definitions

* `originHeaders`: the headers of a response to a call from an origin.
* `preflight`: the response to a question asked in advance.
-/

namespace LabelPress.Http

open LabelPress.Text

/-- Whether calls from an origin are allowed. -/
def allowsOrigin (origins : List String) (origin : String) : Bool :=
  origins.contains "*" || origins.contains origin

/-- The methods that may be used from other origins. -/
def allowedMethods : List String := ["GET", "POST", "OPTIONS"]

/-- The headers that may be sent from other origins, in alphabetical order. -/
def allowedHeaders : List String :=
  ["Accept", "Accept-Language", "Content-Language", "Content-Type", "Origin", "X-Request-ID"]

/-- The header that names an allowed origin. -/
def originHeader (origins : List String) (origin : String) : List (String × String) :=
  if allowsOrigin origins origin then [("access-control-allow-origin", origin)] else []

/-- The headers of a response to a call from an origin. -/
def originHeaders (origins : List String) (origin : String) : List (String × String) :=
  [("access-control-allow-credentials", "true"), ("access-control-expose-headers", "X-Request-ID")]
    ++ originHeader origins origin

/-- Whether a list of headers, separated by commas, may be sent. -/
def allowsHeaders (names : String) : Bool :=
  (splitAt ',' names.toList).all fun part =>
    allowedHeaders.any fun h => h.toLower.toList == strip (part.map Char.toLower)

/-- A question about a call from another origin. -/
structure Inquiry where
  /-- The origin of the call. -/
  origin : String
  /-- The method of the call. -/
  method : String
  /-- The names of the headers of the call, separated by commas, if they are told. -/
  headers : Option String
  /-- Whether the call is one into a private network. Such calls are never allowed. -/
  privateNetwork : Bool
  deriving Repr, DecidableEq

/-- What is not allowed about a call. -/
def Inquiry.failures (origins : List String) (q : Inquiry) : List String :=
  (if allowsOrigin origins q.origin then [] else ["origin"])
    ++ (if allowedMethods.contains q.method then [] else ["method"])
    ++ (if (q.headers.map allowsHeaders).getD true then [] else ["headers"])
    ++ (if q.privateNetwork then ["private-network"] else [])

/-- The response to a question about a call. -/
def preflight (origins : List String) (q : Inquiry) : Response :=
  let failures := q.failures origins
  let answer :=
    if failures.isEmpty then Response.plain 200 "OK"
    else Response.plain 400 ("Disallowed CORS " ++ ", ".intercalate failures)
  answer.withHeaders
    ([("access-control-allow-methods", ", ".intercalate allowedMethods),
      ("access-control-max-age", "600"),
      ("access-control-allow-headers", ", ".intercalate allowedHeaders),
      ("access-control-allow-credentials", "true")]
      ++ originHeader origins q.origin)

/-- The question that a request from an origin asks in advance, if it does. -/
def inquiry? (origin : String) (r : Request) : Option Inquiry :=
  match r.method, r.header? "access-control-request-method" with
  | "OPTIONS", some method => some
    { origin := origin
      method := method
      headers := r.header? "access-control-request-headers"
      privateNetwork := (r.header? "access-control-request-private-network").isSome }
  | _, _ => none

end LabelPress.Http
