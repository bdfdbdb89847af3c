import LabelPress.Text.Blank
import LabelPress.Text.Encoding

/-!
# Files of variables

A file of variables has one binding a line: a name, an equals sign and a value, possibly after the
word `export`. Blanks around the sign do not count, and a number sign begins a comment. A value
between apostrophes or double quotes may span lines and hold escapes; any other value reaches to the
end of the line or to a comment, less the blanks at its end. A line that does not have this form is
skipped. Lines end in a line feed, a carriage return or both. A byte order mark at the beginning of
the file is no part of its first line.

Inside values, `$` with a name in braces stands for the value of that variable. A default may follow
the name after a colon and a minus sign.

## Main definitions

* `bindings`: the bindings of a file, in order, a name without a sign having no value.
* `definitions`: the variables that a file defines, given the variables of the environment.
-/

namespace LabelPress.Dotenv

open LabelPress.Text

/-- A text in which every line ends in a line feed. -/
def unifyLineEnds : List Char → List Char
  | '\r' :: '\n' :: rest => '\n' :: unifyLineEnds rest
  | c :: rest => (if c = '\r' then '\n' else c) :: unifyLineEnds rest
  | [] => []

/-- A blank that does not end a line. -/
def isLineBlank (c : Char) : Bool :=
  isBlank c && c != '\n'

/-- Drops the rest of a line with the character that ends it. -/
def dropLine (s : List Char) : List Char :=
  (s.dropWhile (· ≠ '\n')).drop 1

/-- The value between quotes that a text begins with, after the opening quote, and what follows the
closing one. What follows a backslash does not close the value. -/
def quotedValue (quote : Char) : List Char → Option (List Char × List Char)
  | [] => none
  | '\\' :: c :: rest => (quotedValue quote rest).map fun (v, after) => ('\\' :: c :: v, after)
  | c :: rest =>
    if c = quote then some ([], rest)
    else (quotedValue quote rest).map fun (v, after) => (c :: v, after)

/-- What a letter after a backslash stands for, between the given quotes. -/
def escaped? (quote c : Char) : Option Char :=
  if c = '\\' || c = '\'' then some c
  else if quote = '\'' then none
  else if c = '"' then some '"'
  else if c = 'a' then some '\x07'
  else if c = 'b' then some '\x08'
  else if c = 'f' then some '\x0c'
  else if c = 'n' then some '\n'
  else if c = 'r' then some '\r'
  else if c = 't' then some '\t'
  else if c = 'v' then some '\x0b'
  else none

/-- Replaces the escapes of a quoted value. -/
def unescape (quote : Char) : List Char → List Char
  | [] => []
  | '\\' :: c :: rest =>
    match escaped? quote c with
    | some d => d :: unescape quote rest
    | none => '\\' :: unescape quote (c :: rest)
  | c :: rest => c :: unescape quote rest

/-- A value without quotes, up to a comment. The comment is preceded by a blank. -/
def dropComment : List Char → List Char
  | [] => []
  | c :: rest =>
    if isBlank c && (rest.dropWhile isBlank).head? == some '#' then []
    else c :: dropComment rest

/-- The value that a text begins with, and what follows it. -/
def readValue? (s : List Char) : Option (List Char × List Char) :=
  match s with
  | '\'' :: rest => (quotedValue '\'' rest).map fun (v, after) => (unescape '\'' v, after)
  | '"' :: rest => (quotedValue '"' rest).map fun (v, after) => (unescape '"' v, after)
  | _ =>
    some (dropEnd isBlank (dropComment (s.takeWhile (· ≠ '\n'))), s.dropWhile (· ≠ '\n'))

/-- The value that follows an equals sign, and what follows it; or the place from which the rest of
the line is skipped. After blanks a comment may stand in the place of the value. -/
def readBound (s : List Char) : Except (List Char) (List Char × List Char) :=
  let begun := s.dropWhile isLineBlank
  if begun.head? = some '#' && begun.length < s.length then .ok ([], begun)
  else
    match readValue? begun with
    | some found => .ok found
    | none => .error begun

/-- Drops the word `export` and the blanks after it. -/
def dropExport (s : List Char) : List Char :=
  match "export".toList.isPrefixOf s, s.drop 6 with
  | true, c :: rest => if isLineBlank c then rest.dropWhile isLineBlank else s
  | _, _ => s

/-- Whether a character may belong to a name that is not quoted. -/
def isNameChar (c : Char) : Bool :=
  c != '=' && c != '#' && !isBlank c

/-- The name that a text begins with, none before a comment, and what follows it. -/
def readName? (s : List Char) : Option (Option (List Char) × List Char) :=
  match s with
  | '#' :: _ => some (none, s)
  | '\'' :: rest =>
    match rest.takeWhile (· ≠ '\''), rest.dropWhile (· ≠ '\'') with
    | c :: name, _ :: after => some (some (c :: name), after)
    | _, _ => none
  | _ =>
    match s.takeWhile isNameChar with
    | [] => none
    | name => some (some name, s.dropWhile isNameChar)

/-- Drops blanks and a comment up to the end of a line, which must come then. -/
def endLine? (s : List Char) : Option (List Char) :=
  let afterBlanks := s.dropWhile isLineBlank
  let afterComment := match afterBlanks with
    | '#' :: _ => afterBlanks.dropWhile (· ≠ '\n')
    | _ => afterBlanks
  match afterComment with
  | [] => some []
  | '\n' :: rest => some rest
  | _ => none

/-- A name with the value bound to it. -/
abbrev Binding := List Char × Option (List Char)

/-- What is found at the beginning of a text: a binding or none, and what follows; or the place from
which the rest of the line is skipped. -/
def readBinding (s : List Char) : Except (List Char) (Option Binding × List Char) :=
  let start := dropExport s
  match readName? start with
  | none => .error start
  | some (name, afterName) =>
    let sign := afterName.dropWhile isLineBlank
    let value : Except (List Char) (Option (List Char) × List Char) := match sign with
      | '=' :: rest => (readBound rest).map fun (v, after) => (some v, after)
      | _ => .ok (none, sign)
    match value with
    | .error place => .error place
    | .ok (v, after) =>
      match endLine? after with
      | none => .error after
      | some rest => .ok (name.map (·, v), rest)

/-- The bindings of a text, given fuel for them. -/
def bindingsWith : Nat → List Char → List Binding
  | 0, _ => []
  | fuel + 1, s =>
    match s.dropWhile isBlank with
    | [] => []
    | c :: rest =>
      match readBinding (c :: rest) with
      | .ok (b, after) => b.toList ++ bindingsWith fuel after
      | .error place => bindingsWith fuel (dropLine place)

/-- The bindings of a file. Each takes a character at least. -/
def bindings (s : List Char) : List Binding :=
  bindingsWith (s.length + 1) (unifyLineEnds (dropByteOrderMark s))

/-- The variables known so far, with their values. -/
abbrev Known := List (List Char × List Char)

/-- A reference to a variable that a text begins with, after the dollar sign: its name, its default
and what follows. -/
def readReference? (s : List Char) : Option (List Char × List Char × List Char) :=
  match s with
  | '\x7b' :: body =>
    let name := body.takeWhile fun c => c != '\x7d' && c != ':'
    match body.dropWhile fun c => c != '\x7d' && c != ':' with
    | '\x7d' :: after => some (name, [], after)
    | ':' :: '-' :: rest =>
      match rest.dropWhile (· ≠ '\x7d') with
      | _ :: after => some (name, rest.takeWhile (· ≠ '\x7d'), after)
      | [] => none
    | _ => none
  | _ => none

/-- Replaces the references in a value, given fuel for its characters. -/
def expandWith (known : Known) : Nat → List Char → List Char
  | 0, s => s
  | _, [] => []
  | fuel + 1, c :: rest =>
    match if c = '$' then readReference? rest else none with
    | some (name, fallback, after) =>
      (known.lookup name).getD fallback ++ expandWith known fuel after
    | none => c :: expandWith known fuel rest

/-- Replaces the references in a value. -/
def expand (known : Known) (value : List Char) : List Char :=
  expandWith known value.length value

/-- Defines variables one after the other; later values may refer to earlier ones, which take
precedence over the environment. -/
def define (environment : Known) : Known → List Binding → List Binding
  | _, [] => []
  | defined, (name, none) :: rest =>
    (name, none) :: define environment ((name, []) :: defined) rest
  | defined, (name, some value) :: rest =>
    let full := expand (defined ++ environment) value
    (name, some full) :: define environment ((name, full) :: defined) rest

/-- Binds a name anew: in its place if it is bound already, at the end otherwise. -/
def rebind : List Binding → Binding → List Binding
  | [], b => [b]
  | a :: rest, b => if a.1 = b.1 then b :: rest else a :: rebind rest b

/-- The variables that a file defines, each in the place where its name first appears. The last
binding of a name counts, even if it has no value. -/
def definitions (environment : List (String × String)) (file : String) :
    List (String × Option String) :=
  let known := environment.reverse.map fun (n, v) => (n.toList, v.toList)
  ((define known [] (bindings file.toList)).foldl rebind []).map fun (name, value) =>
    (String.ofList name, value.map String.ofList)

end LabelPress.Dotenv
