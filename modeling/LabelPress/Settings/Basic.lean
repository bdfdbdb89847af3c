import LabelPress.Log
import LabelPress.Qr.Version
import LabelPress.Validation.Check

/-!
# Settings

The settings of the service, their defaults, and the rules that they must obey: each field by
itself, and outside development also two of them together. A service that is not under development
must not run in debug mode and must name the origins that may call it.

## Main definitions

* `Settings`: the record.
* `Settings.ofMembers`: settings from the values that were given, with defaults for the others.
-/

namespace LabelPress

open LabelPress.Json LabelPress.Text LabelPress.Validation

/-- Where the service runs. -/
inductive Environment where
  | development
  | staging
  | production
  deriving Repr, DecidableEq

namespace Environment

/-- The environments in the order in which they are listed. -/
def all : List Environment := [development, staging, production]

/-- The word for an environment. -/
def name : Environment → String
  | development => "development"
  | staging => "staging"
  | production => "production"

end Environment

/-- The settings of the service. -/
structure Settings where
  /-- Where the service runs. -/
  environment : Environment
  /-- Whether it shows details of internal errors. -/
  debug : Bool
  /-- The least level of messages that are logged. -/
  logLevel : LogLevel
  /-- What the paths of the barcode service begin with. -/
  apiRoot : String
  /-- The title of the service. -/
  projectName : String
  /-- The version of the service. -/
  version : String
  /-- The origins from which browsers may call the service. -/
  corsOrigins : List String
  /-- The side of a QR image in pixels. -/
  qrSize : Int
  /-- The margin of a QR symbol in modules. -/
  qrMargin : Int
  /-- The level of error correction of QR symbols. -/
  qrLevel : Qr.Level
  /-- The colour of dark modules. -/
  qrForeground : String
  /-- The colour of light modules. -/
  qrBackground : String
  /-- The greatest number of barcodes in a batch. -/
  batchMaxItems : Int
  /-- The greatest length of a label document. -/
  zplMaxLength : Int
  deriving Repr, DecidableEq

namespace Settings

/-- The origins allowed unless others are named. -/
def defaultOrigins : List String :=
  ["http://localhost:5173", "http://localhost:3000"]

/-- The settings when nothing is given. -/
def standard : Settings where
  environment := .development
  debug := false
  logLevel := .info
  apiRoot := "/api/v1"
  projectName := "Barcode Studio"
  version := "0.1.0"
  corsOrigins := defaultOrigins
  qrSize := 200
  qrMargin := 2
  qrLevel := .low
  qrForeground := "#000000"
  qrBackground := "#FFFFFF"
  batchMaxItems := 100
  zplMaxLength := 65536

/-- The name of the field with the allowed origins, the only one whose text is a document. -/
def originsField : String := "cors_origins"

/-- The names of the fields. -/
def fieldNames : List String :=
  ["environment", "debug", "log_level", "api_v1_prefix", "project_name", "version", originsField,
   "qr_size", "qr_margin", "qr_error_correction", "qr_foreground_color", "qr_background_color",
   "batch_max_items", "zpl_max_length"]

/-- The settings by name. -/
def entries (s : Settings) : Members :=
  [("environment", .string s.environment.name), ("debug", .bool s.debug),
   ("log_level", .string s.logLevel.name), ("api_v1_prefix", .string s.apiRoot),
   ("project_name", .string s.projectName), ("version", .string s.version),
   (originsField, .list (s.corsOrigins.map .string)), ("qr_size", .int s.qrSize),
   ("qr_margin", .int s.qrMargin), ("qr_error_correction", .string s.qrLevel.name),
   ("qr_foreground_color", .string s.qrForeground),
   ("qr_background_color", .string s.qrBackground), ("batch_max_items", .int s.batchMaxItems),
   ("zpl_max_length", .int s.zplMaxLength)]

/-- The form that a colour has in the settings. -/
def colourPattern : String := "^#?[0-9A-Fa-f]\x7b6\x7d$"

/-- Whether a text is six hexadecimal digits, possibly after a number sign. -/
def isColour (s : List Char) : Bool :=
  let body := match s with
    | '#' :: rest => rest
    | _ => s
  body.length == 6 && body.all fun c => (hexValue? c).isSome

/-- A colour of the settings. -/
def checkColour (v : Value) : Checked String :=
  match text v with
  | .error es => .error es
  | .ok s => if isColour s.toList then .ok s else Checked.failed (.patternMismatch colourPattern)

/-- An allowed origin. One that is no text is sent by no client, so it is kept as it is shown. -/
def checkOrigin : Value → Checked String
  | .string s => .ok s
  | .unpaired t => .ok t.shown
  | _ => Checked.failed .notString

/-- The rules that concern several fields. -/
def checkTogether (s : Settings) : Checked Settings :=
  if s.environment = .development then .ok s
  else if s.debug then
    Checked.failed
      (.rejected ("debug must be False in " ++ s.environment.name ++ " environment"))
  else if s.corsOrigins = defaultOrigins then
    Checked.failed
      (.rejected ("cors_origins must be explicitly configured in " ++ s.environment.name
        ++ " environment"))
  else .ok s

/-- The words for environments. -/
def environmentWords : List (String × Environment) :=
  Environment.all.map fun e => (e.name, e)

/-- The words for log levels. -/
def logLevelWords : List (String × LogLevel) :=
  LogLevel.all.map fun l => (l.name, l)

/-- The words for levels of error correction. -/
def qrLevelWords : List (String × Qr.Level) :=
  Qr.Level.all.map fun l => (l.name, l)

/-- The fields of the settings, each checked by itself. -/
def checkFields (ms : Members) : Checked Settings :=
  let d := standard
  (Checked.both (optional ms "environment" d.environment (literal environmentWords))
    (Checked.both (optional ms "debug" d.debug truthValue)
    (Checked.both (optional ms "log_level" d.logLevel (literal logLevelWords))
    (Checked.both (optional ms "api_v1_prefix" d.apiRoot text)
    (Checked.both (optional ms "project_name" d.projectName text)
    (Checked.both (optional ms "version" d.version text)
    (Checked.both (optional ms originsField d.corsOrigins (listOf checkOrigin))
    (Checked.both (optional ms "qr_size" d.qrSize (integerWithin (some 21) (some 4000)))
    (Checked.both (optional ms "qr_margin" d.qrMargin (integerWithin (some 0) (some 16)))
    (Checked.both (optional ms "qr_error_correction" d.qrLevel (literal qrLevelWords))
    (Checked.both (optional ms "qr_foreground_color" d.qrForeground checkColour)
    (Checked.both (optional ms "qr_background_color" d.qrBackground checkColour)
    (Checked.both (optional ms "batch_max_items" d.batchMaxItems (integerWithin (some 1) none))
      (optional ms "zpl_max_length" d.zplMaxLength (integerWithin (some 1) none))))))))))))))).map
    fun (environment, debug, logLevel, apiRoot, projectName, version, corsOrigins, qrSize,
        qrMargin, qrLevel, qrForeground, qrBackground, batchMaxItems, zplMaxLength) =>
      ⟨environment, debug, logLevel, apiRoot, projectName, version, corsOrigins, qrSize, qrMargin,
        qrLevel, qrForeground, qrBackground, batchMaxItems, zplMaxLength⟩

/-- Settings from the values given for some of the fields. Members of other names are ignored. -/
def ofMembers (ms : Members) : Checked Settings :=
  match checkFields ms with
  | .error es => .error es
  | .ok s => checkTogether s

end Settings

end LabelPress
