import LabelPress.Http.Reply

/-!
# Requests and responses

A request as it reaches the service, with its path decoded, and a response with its status, its
headers and its body. Names of headers are compared without regard to case.

## Main definitions

* `Request.header?`: the value of a header.
* `Response.reply`, `Response.plain`, `Response.image`, `Response.redirect`: the shapes of
  responses.
-/

namespace LabelPress.Http

open LabelPress.Barcode

/-- A request to the service. -/
structure Request where
  /-- The method. -/
  method : String
  /-- The host that the client addressed. -/
  host : String
  /-- The path, decoded. -/
  path : String
  /-- The query, encoded; empty if there is none. -/
  query : String
  /-- The headers. -/
  headers : List (String × String)
  /-- The body; empty if there is none. -/
  body : String
  deriving Repr, DecidableEq

/-- The value of a header. -/
def Request.header? (r : Request) (name : String) : Option String :=
  (r.headers.find? fun h => h.1.toLower == name).map (·.2)

/-- The scheme and the host to which a request was sent. -/
def Request.base (r : Request) : String :=
  "http://" ++ (r.header? "host").getD r.host

/-- The body of a response. -/
inductive Body where
  /-- No body. -/
  | empty
  /-- A line of text. -/
  | text (content : String)
  /-- An image file. -/
  | png (drawing : Drawing)
  /-- A document. -/
  | document (reply : Reply)

/-- A response of the service. -/
structure Response where
  /-- The status. -/
  status : Nat
  /-- The headers. -/
  headers : List (String × String)
  /-- The body. -/
  body : Body

namespace Response

/-- A response with a document. -/
def reply (status : Nat) (r : Reply) : Response :=
  ⟨status, [("content-type", "application/json")], .document r⟩

/-- A response with a line of text. -/
def plain (status : Nat) (content : String) : Response :=
  ⟨status, [("content-type", "text/plain; charset=utf-8")], .text content⟩

/-- A response with an image. -/
def image (d : Drawing) : Response :=
  ⟨200,
    [("content-type", "image/png"),
     ("content-disposition", "inline; filename=\"barcode.png\"")],
    .png d⟩

/-- A response that sends the client elsewhere, keeping the method. -/
def redirect (location : String) : Response :=
  ⟨307, [("location", location)], .empty⟩

/-- A page, whose contents are left open. -/
def page : Response :=
  ⟨200, [("content-type", "text/html; charset=utf-8")], .empty⟩

/-- A description of the service, whose contents are left open. -/
def description : Response :=
  ⟨200, [("content-type", "application/json")], .empty⟩

/-- A refusal with a reason. -/
def refusal (status : Nat) (reason : String) : Response :=
  reply status (.detail reason)

/-- The response if the path leads nowhere. -/
def notFound : Response :=
  refusal 404 "Not Found"

/-- The response if the path allows other methods only. -/
def wrongMethod (allowed : List String) : Response :=
  { refusal 405 "Method Not Allowed" with
    headers := [("content-type", "application/json"), ("allow", ", ".intercalate allowed)] }

/-- The response if something went wrong that no endpoint accounts for. -/
def internalError : Response :=
  plain 500 "Internal Server Error"

/-- Adds headers to a response. -/
def withHeaders (r : Response) (more : List (String × String)) : Response :=
  { r with headers := r.headers ++ more }

/-- The response without its body, as it is sent to a client that asked for the head only. -/
def headOnly (r : Response) : Response :=
  { r with body := .empty }

end Response

end LabelPress.Http
