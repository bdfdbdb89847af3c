import LabelPress.Json.Reader
import LabelPress.Settings.Basic
import LabelPress.Settings.Dotenv

/-!
# Sources of settings

A setting can be given explicitly, by a variable of the environment or by a file of variables; the
first of these that gives it counts, and the default otherwise. Variables have the names of the
fields, in any case. The text of the list of origins is a document; it is read in every source that
gives it, even if another source takes precedence.

## Main definitions

* `Source.members`: what a source of variables gives.
* `Settings.load`: the settings from all sources.
-/

namespace LabelPress

open LabelPress.Json LabelPress.Validation

/-- A source of variables. -/
inductive Source where
  /-- The environment of the process. -/
  | environment
  /-- A file of variables. -/
  | file
  deriving Repr, DecidableEq

/-- The name of a source in messages. -/
def Source.name : Source → String
  | .environment => "EnvSettingsSource"
  | .file => "DotEnvSettingsSource"

/-- Why there are no settings. -/
inductive SettingsFault where
  /-- The list of origins given by a source is not a document. -/
  | unreadable (source : Source)
  /-- The list of origins is nested too deeply, in values of this kind. -/
  | tooDeep (container : Container)
  /-- Fields are not valid. -/
  | invalid (errors : List FieldError)
  deriving Repr, DecidableEq

/-- How deeply lists and objects may be nested in the text of a setting. The reader calls itself for
every level, and calls may be nested up to a thousand deep; about twenty of them are under way
already when settings are loaded. -/
def settingDepth : Nat := 980

/-- The wording of a list of origins that cannot be read. -/
def SettingsFault.message : SettingsFault → String
  | .unreadable s =>
    "error parsing value for field \"" ++ Settings.originsField ++ "\" from source \""
      ++ s.name ++ "\""
  | .tooDeep c =>
    "maximum recursion depth exceeded while decoding a JSON " ++ c.word
      ++ " from a unicode string"
  | .invalid _ => "validation error"

/-- A list of variables with their values. -/
abbrev Variables := List (String × String)

/-- Sets a variable: in its place if it is there, at the end otherwise. -/
def Variables.put : Variables → String → String → Variables
  | [], name, value => [(name, value)]
  | v :: vs, name, value =>
    if v.1 = name then (name, value) :: vs else v :: Variables.put vs name value

/-- A letter of the name of a variable in lower case. The Kelvin sign is a capital K. -/
def lowerLetter (c : Char) : Char :=
  if c = Char.ofNat 0x212A then 'k' else c.toLower

/-- What a source says about a field: the names of variables may be in any case, and of several the
last one counts. -/
def lookUp (vs : List (String × Option String)) (field : String) : Option String :=
  (vs.reverse.find? fun v => v.1.toList.map lowerLetter == field.toList).bind (·.2)

namespace Source

/-- The value that a text gives to a field. A null document gives none. -/
def valueOf (s : Source) (field value : String) : Except SettingsFault (Option Value) :=
  if field = Settings.originsField then
    match readWithin settingDepth value.toList with
    | .error (.tooDeep c) => .error (.tooDeep c)
    | .error _ => .error (.unreadable s)
    | .ok .null => .ok none
    | .ok v => .ok (some v)
  else .ok (some (.string value))

/-- What a source gives to the fields, in their order. -/
def membersOf (s : Source) (vs : List (String × Option String)) :
    List String → Except SettingsFault Members
  | [] => .ok []
  | field :: rest =>
    match (lookUp vs field).map (s.valueOf field) with
    | some (.error e) => .error e
    | some (.ok (some v)) => (membersOf s vs rest).map ((field, v) :: ·)
    | _ => membersOf s vs rest

/-- What a source gives. -/
def members (s : Source) (vs : List (String × Option String)) : Except SettingsFault Members :=
  s.membersOf vs Settings.fieldNames

end Source

/-- Explicit values by the names of fields, which may be written in any case. -/
def foldNames (explicit : Members) : Members :=
  explicit.map fun m => (String.ofList (m.1.toList.map lowerLetter), m.2)

/-- The settings from all sources: explicit values, then variables, then a file of variables. -/
def Settings.load (explicit : Members) (environment : Variables) (file : Option String) :
    Except SettingsFault Settings :=
  match Source.environment.members (environment.map fun v => (v.1, some v.2)) with
  | .error e => .error e
  | .ok fromEnvironment =>
    match Source.file.members (Dotenv.definitions environment (file.getD "")) with
    | .error e => .error e
    | .ok fromFile =>
      match Settings.ofMembers (foldNames explicit ++ fromEnvironment ++ fromFile) with
      | .error es => .error (.invalid es)
      | .ok s => .ok s

end LabelPress
