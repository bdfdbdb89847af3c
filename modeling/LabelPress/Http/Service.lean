import LabelPress.Http.Answer
import LabelPress.Http.Cors
import LabelPress.Http.Route

/-!
# The service

A service is created from the settings of that time. Its title, its version, its root and the
origins it allows stay what they were; the limits and the renderers of an endpoint follow the
settings that the store has when a request arrives.

Input is looked at in a fixed order: first the body must be readable, then the renderers must be
there, then the fields are checked, and only then the limits.

## Main definitions

* `Service.create`: a new service.
* `Service.respond`: the response to a request.
* `Service.entries`: what the service says about itself.
-/

namespace LabelPress.Http

open LabelPress.Json LabelPress.Barcode LabelPress.Validation LabelPress.Zpl

/-- A service. -/
structure Service where
  /-- The settings at its creation. -/
  settings : Settings
  /-- What its paths begin with. -/
  root : Pattern
  deriving Repr, DecidableEq

/-- Why a service cannot be created. -/
inductive CreationFault where
  /-- There are no settings. -/
  | settings (fault : SettingsFault)
  /-- The title is empty. -/
  | noTitle
  /-- The version is empty. -/
  | noVersion
  /-- The root is not empty and does not begin with a slash. -/
  | relativeRoot
  /-- The root is not a pattern of paths. -/
  | badRoot (root : String) (fault : PatternFault)
  deriving Repr, DecidableEq

/-- The path of the description of a service under a root. -/
def descriptionPath (root : String) : String :=
  root ++ "/openapi.json"

/-- The wording of a fault at the creation. -/
def CreationFault.message : CreationFault → String
  | settings f => f.message
  | noTitle => "A title must be provided for OpenAPI, e.g.: 'My API'"
  | noVersion => "A version must be provided for OpenAPI, e.g.: '2.1.0'"
  | relativeRoot => "Routed paths must start with '/'"
  | badRoot _ (.unknownKind word) => "Unknown path convertor '" ++ word ++ "'"
  | badRoot root (.repeated names) =>
    "Duplicated param name" ++ (if names.length = 1 then " " else "s ")
      ++ ", ".intercalate names ++ " at path " ++ descriptionPath root

namespace Service

/-- A new service with given settings. -/
def ofSettings (s : Settings) : Except CreationFault Service :=
  if s.projectName.isEmpty then .error .noTitle
  else if s.version.isEmpty then .error .noVersion
  else if !s.apiRoot.isEmpty && s.apiRoot.toList.head? ≠ some '/' then .error .relativeRoot
  else
    match Pattern.read s.apiRoot.toList with
    | .error f => .error (.badRoot s.apiRoot f)
    | .ok root => .ok ⟨s, root⟩

/-- A new service with the settings of a store. -/
def create (store : Store) : Except CreationFault Service × Store :=
  match store.get with
  | (.error e, s) => (.error (.settings e), s)
  | (.ok l, s) => (ofSettings l.settings, s)

/-- What the service says about itself, and where it is documented. -/
def entries (s : Service) : Members :=
  [("title", .string s.settings.projectName), ("version", .string s.settings.version),
   ("debug", .bool s.settings.debug),
   ("openapi_url", .string (descriptionPath s.settings.apiRoot)),
   ("docs_url", .string (s.settings.apiRoot ++ "/docs")),
   ("redoc_url", .string (s.settings.apiRoot ++ "/redoc"))]

/-- The event reported when a service starts. -/
def startEvent (settings : Settings) (encoderAvailable : Bool) : Event :=
  .serviceStarting settings.environment.name settings.version encoderAvailable

end Service

/-- The settings of a store, and the renderers that they describe. -/
def prepare (encoderAvailable : Bool) (store : Store) :
    Except Breakdown (Settings × Context) × Store :=
  match store.get with
  | (.error _, s) => (.error .internal, s)
  | (.ok l, s) =>
    match l.settings.context encoderAvailable with
    | .error _ => (.error .internal, s)
    | .ok c => (.ok (l.settings, c), s)

/-- Goes on with the body of a request, if it can be read. -/
def withEntity (store : Store) (r : Request) (answer : Option Value → Job Answer × Store) :
    Job Answer × Store :=
  match r.entity with
  | .error e => (.done (.ok (answerUnreadable e)), store)
  | .ok entity => answer entity

/-- Goes on with settings and renderers, if they are there. -/
def withRenderers (encoderAvailable : Bool) (store : Store)
    (answer : Settings → Context → Job Answer) : Job Answer × Store :=
  match prepare encoderAvailable store with
  | (.error b, s) => (.done (.error b), s)
  | (.ok (settings, c), s) => (answer settings c, s)

/-- Goes on with checked input, if it is valid. -/
def withChecked (entity : Option Value) (input : Checked α) (answer : α → Job Answer) :
    Job Answer :=
  match input with
  | .error es => .done (answerInvalid entity es)
  | .ok a => answer a

/-- The answer of an endpoint that takes a body and needs the renderers. -/
def answerPosted (encoderAvailable : Bool) (store : Store) (r : Request)
    (check : Value → Checked α) (answer : Settings → Context → α → Job Answer) :
    Job Answer × Store :=
  withEntity store r fun entity =>
    withRenderers encoderAvailable store fun settings c =>
      withChecked entity (checkBody check entity) (answer settings c)

/-- The answer about the directives of a label document, for which no renderers are needed. -/
def answerPostedLabel (store : Store) (r : Request) : Job Answer × Store :=
  withEntity store r fun entity =>
    match checkBody checkDocument entity with
    | .error es => (.done (answerInvalid entity es), store)
    | .ok label =>
      match store.get with
      | (.error _, s) => (.done (.error .internal), s)
      | (.ok l, s) => (answerInterpret l.settings label, s)

namespace Service

/-- The answer of an endpoint. -/
def answer (s : Service) (encoderAvailable : Bool) (store : Store) (r : Request) :
    Endpoint → Job Answer × Store
  | .health => (.done (.ok (.reply 200 (.health s.settings.version encoderAvailable))), store)
  | .barcode =>
    answerPosted encoderAvailable store r (RawRequest.check .body) fun _ => answerBarcode
  | .batch => answerPosted encoderAvailable store r (RawRequest.checkBatch .body) answerBatch
  | .image =>
    withRenderers encoderAvailable store fun _ c =>
      withChecked none (checkQuery ImageQuery.ofMembers r) (answerImageQuery c)
  | .interpret => answerPostedLabel store r
  | .render => answerPosted encoderAvailable store r checkDocument answerRender
  | .template type =>
    (withChecked none (checkQuery (fun ms => required ms "data" (textAtLeast 1)) r) fun payload =>
      .done (.ok (answerTemplate type payload)), store)
  | .description => (.done (.ok .description), store)
  | .page => (.done (.ok .page), store)

/-- The answer to a request for a path that leads nowhere as it is. -/
def redirect (s : Service) (r : Request) : Response :=
  match redirection? s.root r.path.toList with
  | some path => .redirect (location r.base path r.query)
  | none => .notFound

/-- The answer to a request, without regard to its origin. -/
def route (s : Service) (encoderAvailable : Bool) (store : Store) (r : Request) :
    Job Answer × Store :=
  match endpoint? s.root r.path.toList r.method with
  | some e =>
    if e.methods.contains r.method then s.answer encoderAvailable store r e
    else (.done (.ok (.wrongMethod e.methods)), store)
  | none => (.done (.ok (s.redirect r)), store)

/-- The response that an answer leads to, with headers added to what an endpoint answered. -/
def conclude (more : List (String × String)) : Answer → Except String Response
  | .ok response => .ok (response.withHeaders more)
  | .error .internal => .ok .internalError
  | .error (.abort m) => .error m

/-- The response as the method of its request asks for it. -/
def trim (method : String) (response : Response) : Response :=
  if method = "HEAD" then response.headOnly else response

/-- The response to a request, with the store as it is afterwards. If an engine aborts, there is
only its message. -/
def respond (s : Service) (encoderAvailable : Bool) (store : Store) (r : Request) :
    Job (Except String Response) × Store :=
  let origins := s.settings.corsOrigins
  match (r.header? "origin").bind fun origin => inquiry? origin r with
  | some q => (.done (.ok (preflight origins q)), store)
  | none =>
    let more := ((r.header? "origin").map (originHeaders origins)).getD []
    let (job, next) := s.route encoderAvailable store r
    (job.map fun a => (conclude more a).map (trim r.method), next)

end Service

end LabelPress.Http
