import LabelPress.Http.Message
import LabelPress.Http.Pattern
import LabelPress.Text.Blank
import LabelPress.Text.Percent

/-!
# Routes

Which endpoint a path leads to. The routes are tried in order, and the first one that fits both the
path and the method of a request counts. If there is none, the first one that fits the path shows
which methods would have been possible. All paths but those of two routes begin with the root of the
service, which may have parameters of its own. A path with superfluous slashes at its end leads to a
redirection.

## Main definitions

* `Endpoint`: what the service offers.
* `routes`: all routes under a root.
* `endpoint?`: the endpoint of a path and a method.
* `redirection?`: where a path with superfluous slashes should have led.
-/

namespace LabelPress.Http

open LabelPress.Text

/-- What the service offers. -/
inductive Endpoint where
  /-- The state of the service. -/
  | health
  /-- One barcode, reported as a document. -/
  | barcode
  /-- Several barcodes. -/
  | batch
  /-- One barcode as an image file. -/
  | image
  /-- The directives of a label document. -/
  | interpret
  /-- The barcodes of a label document. -/
  | render
  /-- A label with a barcode of the named type. -/
  | template (type : String)
  /-- The machine-readable description of the service. -/
  | description
  /-- A page for readers of the documentation. -/
  | page
  deriving Repr, DecidableEq

namespace Endpoint

/-- The methods that an endpoint allows. -/
def methods : Endpoint → List String
  | health | image | template _ => ["GET"]
  | barcode | batch | interpret | render => ["POST"]
  | description | page => ["GET", "HEAD"]

end Endpoint

/-- A route: the pattern of its paths, and its endpoint, given the parts of the path that the
parameters stand for. -/
structure Route where
  /-- The pattern of the paths. -/
  pattern : Pattern
  /-- The endpoint. -/
  endpoint : List (List Char) → Endpoint

/-- The endpoint of a route, if a path fits it. -/
def Route.endpoint? (r : Route) (path : List Char) : Option Endpoint :=
  (r.pattern.match? path).map r.endpoint

/-- A route under a root with a fixed continuation. -/
def Route.fixed (root : Pattern) (path : String) (e : Endpoint) : Route :=
  ⟨root ++ .fixed path, fun _ => e⟩

/-- The parameter of a route of templates. -/
def templateParameter : Piece :=
  .parameter "barcode_type" .text

/-- The route of templates, whose last parameter is the name of a type. -/
def Route.template (root : Pattern) : Route :=
  ⟨root ++ .fixed "/zpl/templates/" ++ [templateParameter],
    fun parts => .template (String.ofList (parts.getLast?.getD []))⟩

/-- All routes under a root, in the order in which they are tried. -/
def routes (root : Pattern) : List Route :=
  [.fixed root "/openapi.json" .description,
   .fixed root "/docs" .page,
   .fixed [] "/docs/oauth2-redirect" .page,
   .fixed root "/redoc" .page,
   .fixed [] "/health" .health,
   .fixed root "/barcodes" .barcode,
   .fixed root "/barcodes/batch" .batch,
   .fixed root "/barcodes/image" .image,
   .fixed root "/zpl/interpret" .interpret,
   .fixed root "/zpl/render" .render,
   .template root]

/-- The endpoints of the routes that a path fits. -/
def endpointsOf (root : Pattern) (path : List Char) : List Endpoint :=
  (routes root).filterMap (·.endpoint? path)

/-- The endpoint for a path and a method: the first one that allows the method, or else the first
one at all. -/
def endpoint? (root : Pattern) (path : List Char) (method : String) : Option Endpoint :=
  let found := endpointsOf root path
  (found.find? fun e => e.methods.contains method).or found.head?

/-- The characters that are not encoded in a location. -/
def locationMarks : List Char :=
  ":/%#?=@[]!$&'()*+,;".toList

/-- A path in which the marks that would end it are encoded. -/
def guardPath (path : List Char) : List Char :=
  path.flatMap fun c =>
    if c = '?' then ['%', '3', 'F'] else if c = '#' then ['%', '2', '3'] else [c]

/-- The address of a path under a base, with the query of a request. -/
def location (base : String) (path : List Char) (query : String) : String :=
  let parameters := if query.isEmpty then [] else '?' :: query.toList
  String.ofList
    (percentEncode (locationMarks.contains ·) (base.toList ++ guardPath path ++ parameters))

/-- Where a path that ends in superfluous slashes should have led. -/
def redirection? (root : Pattern) (path : List Char) : Option (List Char) :=
  let plain := dropEnd (· = '/') path
  if path.getLast? = some '/' && path != ['/'] && !(endpointsOf root plain).isEmpty then
    some plain
  else none

end LabelPress.Http
