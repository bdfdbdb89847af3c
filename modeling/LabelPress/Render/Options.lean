import LabelPress.Json.Arguments
import LabelPress.Json.Display

/-!
# Render options

What a renderer is told about one barcode. The general settings have fields of their own; `extras`
holds settings with a meaning for some symbologies only. When the options are listed by name, an
extra setting takes the place of a general one of the same name.

Callers may pass values of any kind. The options only hold them; it is for a renderer to find out
whether it can use a value.

## Main definitions

* `Options`: the options.
* `Options.ofMembers`: options from named arguments.
* `Options.entries`: the options by name.
-/

namespace LabelPress.Render

open LabelPress.Json

/-- The options for rendering one barcode. -/
structure Options where
  /-- The identifier of the symbology for the raster engine. -/
  rendererId : Value
  /-- The payload. -/
  text : Value
  /-- The scale factor. -/
  scale : Value := .int 2
  /-- The height of the bars in millimetres. -/
  height : Value := .int 60
  /-- The width of the border in pixels. -/
  padding : Value := .int 8
  /-- Whether the text is printed below the bars. -/
  includeText : Value := .bool true
  /-- How that text is aligned. -/
  textAlign : Value := .string "center"
  /-- The colour of the border. -/
  background : Value := .string "FFFFFF"
  /-- The width of the symbol in millimetres; null if it is not set. -/
  width : Value := .null
  /-- Settings with a meaning for some symbologies only. -/
  extras : Value := .object []

namespace Options

/-- The names of the options. -/
def parameters : Parameters where
  callable := "RenderOptions.__init__"
  needed := ["bcid", "text"]
  possible :=
    ["scale", "height", "padding", "includetext", "textxalign", "backgroundcolor", "width",
     "extras"]

/-- Options from named arguments. -/
def ofMembers (ms : Members) : Except Fault Options :=
  match parameters.check ms with
  | .error f => .error f
  | .ok () =>
    let d : Options :=
      { rendererId := (ms.get? "bcid").getD .null, text := (ms.get? "text").getD .null }
    .ok
      { d with
        scale := (ms.get? "scale").getD d.scale
        height := (ms.get? "height").getD d.height
        padding := (ms.get? "padding").getD d.padding
        includeText := (ms.get? "includetext").getD d.includeText
        textAlign := (ms.get? "textxalign").getD d.textAlign
        background := (ms.get? "backgroundcolor").getD d.background
        width := (ms.get? "width").getD d.width
        extras := (ms.get? "extras").getD d.extras }

/-- The fields of the options by name. -/
def fields (o : Options) : Members :=
  [("bcid", o.rendererId), ("text", o.text), ("scale", o.scale), ("height", o.height),
   ("padding", o.padding), ("includetext", o.includeText), ("textxalign", o.textAlign),
   ("backgroundcolor", o.background), ("width", o.width), ("extras", o.extras)]

/-- The general options by name; a width that is not set is left out. -/
def general (o : Options) : Members :=
  [("bcid", o.rendererId), ("text", o.text), ("scale", o.scale), ("height", o.height),
   ("padding", o.padding), ("includetext", o.includeText), ("textxalign", o.textAlign),
   ("backgroundcolor", o.background)] ++
    match o.width with
    | .null => []
    | w => [("width", w)]

/-- A value as the name of a member. Lists and objects cannot be names. -/
def asName : Value → Except Fault String
  | .null => .ok "null"
  | .bool b => .ok (if b then "true" else "false")
  | .list _ => .error (.unhashable "list")
  | .object _ => .error (.unhashable "dict")
  | v => .ok v.shown

/-- An item of a list as a member; `index` is its place in the list. -/
def asMember (index : Nat) : Value → Except Fault (String × Value)
  | .list [name, v] => (asName name).map (·, v)
  | .list items => .error (.itemLength index items.length)
  | .object [(name, _), (v, _)] => .ok (name, .string v)
  | .object members => .error (.itemLength index members.length)
  | .string s =>
    match s.toList with
    | [a, b] => .ok (a.toString, .string b.toString)
    | chars => .error (.itemLength index chars.length)
  | .unpaired t =>
    match t.points with
    | [a, b] => .ok (a.shown.toString, .ofPoints [b])
    | points => .error (.itemLength index points.length)
  | _ => .error (.itemNotPair index)

/-- The items of a list as members. -/
def asMembers (index : Nat) : List Value → Except Fault Members
  | [] => .ok []
  | v :: vs =>
    match asMember index v with
    | .error f => .error f
    | .ok m => (asMembers (index + 1) vs).map (m :: ·)

/-- The extra settings as members: those of an object, or a list of pairs. -/
def extraMembers : Value → Except Fault Members
  | .object members => .ok members
  | .list items => asMembers 0 items
  | .string s => asMembers 0 (s.toList.map fun c => .string c.toString)
  | .unpaired t => asMembers 0 (t.points.map fun p => .ofPoints [p])
  | v => .error (.notIterable v.kindName)

/-- The options by name. -/
def entries (o : Options) : Except Fault Members :=
  (extraMembers o.extras).map o.general.putAll

/-- The options that can be listed by name, for reports. -/
def listed (o : Options) : Members :=
  match o.entries with
  | .ok ms => ms
  | .error _ => o.general

end Options

end LabelPress.Render
