import LabelPress.Text.Digit
import LabelPress.Text.Hex

/-!
# Patterns of paths

The paths that lead to an endpoint are described by a pattern: characters that must be there, and
parameters in braces that stand for a part of the path. A parameter may say after a colon what it
stands for: anything without a slash, which is also the default, anything on one line, digits, a
decimal number or an identifier of 128 bits. Braces that do not enclose a parameter are ordinary
characters. A line break at the end of a path is ignored unless a parameter takes it.

## Main definitions

* `Pattern.read`: the pattern that a text denotes.
* `Pattern.match?`: the parts of a path that the parameters of a pattern stand for.
-/

namespace LabelPress.Http

open LabelPress.Text

/-- What a parameter can stand for. -/
inductive ParameterKind where
  /-- At least one character, none of them a slash. -/
  | text
  /-- Any characters but line breaks. -/
  | path
  /-- Digits. -/
  | integer
  /-- Digits, possibly with a fraction. -/
  | decimal
  /-- An identifier of 32 hexadecimal digits, possibly with hyphens. -/
  | identifier
  deriving Repr, DecidableEq

namespace ParameterKind

/-- The kinds by the word for them. -/
def words : List (String × ParameterKind) :=
  [("str", text), ("path", path), ("int", integer), ("float", decimal), ("uuid", identifier)]

/-- Whether a text is one or more ASCII digits. -/
def isNumeral (s : List Char) : Bool :=
  !s.isEmpty && s.all isAsciiDigit

/-- Whether a text is a number with or without a fraction. -/
def isDecimal (s : List Char) : Bool :=
  match s.dropWhile (· ≠ '.') with
  | [] => isNumeral s
  | _ :: fraction => isNumeral (s.takeWhile (· ≠ '.')) && isNumeral fraction

/-- Whether a text consists of groups of hexadecimal digits of these sizes, with or without a hyphen
between two groups. -/
def isGrouped : List Nat → List Char → Bool
  | [], s => s.isEmpty
  | n :: sizes, s =>
    let group := s.take n
    let rest := s.drop n
    group.length == n && group.all (fun c => (hexValue? c).isSome) &&
      isGrouped sizes
        (match sizes, rest with
          | _ :: _, '-' :: after => after
          | _, _ => rest)

/-- The sizes of the groups of an identifier. -/
def identifierGroups : List Nat := [8, 4, 4, 4, 12]

/-- Whether a parameter can stand for a text. -/
def accepts : ParameterKind → List Char → Bool
  | text, s => !s.isEmpty && !s.contains '/'
  | path, s => !s.contains '\n'
  | integer, s => isNumeral s
  | decimal, s => isDecimal s
  | identifier, s => isGrouped identifierGroups s

end ParameterKind

/-- A piece of a pattern. -/
inductive Piece where
  /-- A character that must be there. -/
  | literal (c : Char)
  /-- A parameter. -/
  | parameter (name : String) (kind : ParameterKind)
  deriving Repr, DecidableEq

/-- A pattern of paths. -/
abbrev Pattern := List Piece

/-- Why a text is not a pattern. -/
inductive PatternFault where
  /-- There is no kind of parameter of this name. -/
  | unknownKind (word : String)
  /-- Parameters of these names occur more than once. -/
  | repeated (names : List String)
  deriving Repr, DecidableEq

namespace Pattern

/-- Whether a character can begin a name. -/
def beginsName (c : Char) : Bool :=
  c.isAlpha || c == '_'

/-- The name that a text begins with, and what follows. -/
def name? (s : List Char) : Option (List Char × List Char) :=
  match s with
  | c :: cs =>
    if beginsName c then
      let inName (d : Char) : Bool := beginsName d || isAsciiDigit d
      some (c :: cs.takeWhile inName, cs.dropWhile inName)
    else none
  | [] => none

/-- The parameter that a text begins with, after its opening brace: its name, the word for its kind
and what follows the closing brace. -/
def parameter? (s : List Char) : Option (String × String × List Char) :=
  match name? s with
  | some (name, '\x7d' :: rest) => some (String.ofList name, "str", rest)
  | some (name, ':' :: rest) =>
    match name? rest with
    | some (word, '\x7d' :: after) => some (String.ofList name, String.ofList word, after)
    | _ => none
  | _ => none

/-- The pieces of a text, given fuel for its characters. -/
def pieces : Nat → List Char → Except PatternFault Pattern
  | 0, _ | _, [] => .ok []
  | fuel + 1, c :: cs =>
    match if c = '\x7b' then parameter? cs else none with
    | none => (pieces fuel cs).map (.literal c :: ·)
    | some (name, word, rest) =>
      match ParameterKind.words.lookup word with
      | none => .error (.unknownKind word)
      | some kind => (pieces fuel rest).map (.parameter name kind :: ·)

/-- The name of a parameter. -/
def Piece.name? : Piece → Option String
  | .literal _ => none
  | .parameter name _ => some name

/-- The names that occur more than once in a list, each of them once. -/
def repeatedNames : List String → List String
  | [] => []
  | n :: ns => if ns.contains n then n :: (repeatedNames ns).filter (· ≠ n) else repeatedNames ns

/-- The pattern that a text denotes. -/
def read (s : List Char) : Except PatternFault Pattern :=
  match pieces s.length s with
  | .error f => .error f
  | .ok p =>
    match repeatedNames (p.filterMap Piece.name?) with
    | [] => .ok p
    | names => .error (.repeated (names.mergeSort fun a b => a ≤ b))

/-- The pattern of a fixed text. -/
def fixed (s : String) : Pattern :=
  s.toList.map .literal

/-- The parts of a path that the parameters of a pattern stand for, in order. A parameter stands for
as much as it can. -/
def match? : Pattern → List Char → Option (List (List Char))
  | [], s => if s = [] || s = ['\n'] then some [] else none
  | .literal c :: p, s =>
    match s with
    | d :: rest => if c = d then match? p rest else none
    | [] => none
  | .parameter _ kind :: p, s =>
    (List.range (s.length + 1)).reverse.findSome? fun n =>
      if kind.accepts (s.take n) then (match? p (s.drop n)).map (s.take n :: ·) else none

end Pattern

end LabelPress.Http
