import LabelPress.Json.Value
import LabelPress.Number.Decimal
import LabelPress.Text.Hex

/-!
# Writing documents

The compact text of a value, in ASCII. Characters outside ASCII are written as escapes of four
hexadecimal digits, those beyond U+FFFF as a pair of surrogates; floating point numbers by their
shortest text.
-/

namespace LabelPress.Json

open LabelPress.Text LabelPress.Number

/-- An escape of four hexadecimal digits. -/
def unicodeEscape (n : Nat) : List Char :=
  '\\' :: 'u' :: hexText 4 n

/-- One character inside a string. -/
def escapeChar (c : Char) : List Char :=
  if c = '"' || c = '\\' then ['\\', c]
  else if c = '\n' then ['\\', 'n']
  else if c = '\r' then ['\\', 'r']
  else if c = '\t' then ['\\', 't']
  else if 0x20 ≤ c.toNat && c.toNat ≤ 0x7E then [c]
  else if c.toNat < 0x10000 then unicodeEscape c.toNat
  else
    let offset := c.toNat - 0x10000
    unicodeEscape (0xD800 + offset / 0x400) ++ unicodeEscape (0xDC00 + offset % 0x400)

/-- A string between double quotes. -/
def stringText (s : String) : List Char :=
  '"' :: s.toList.flatMap escapeChar ++ ['"']

/-- One code point inside a string. -/
def escapePoint : CodePoint → List Char
  | .char c => escapeChar c
  | .half s => unicodeEscape s.number

/-- A string that is no text between double quotes. -/
def unpairedText (t : Unpaired) : List Char :=
  '"' :: t.points.flatMap escapePoint ++ ['"']

/-- An integer in decimal. -/
def intText (n : Int) : List Char :=
  if n < 0 then '-' :: digitsText n.natAbs else digitsText n.natAbs

/-- A floating point number; infinities and undefined results have names of their own. -/
def floatText : Binary64 → List Char
  | .infinite true => "-Infinity".toList
  | .infinite false => "Infinity".toList
  | .notANumber => "NaN".toList
  | x => x.shortestText

mutual
/-- The text of a value. -/
def Value.chars : Value → List Char
  | .null => "null".toList
  | .bool true => "true".toList
  | .bool false => "false".toList
  | .int n => intText n
  | .float x => floatText x
  | .string s => stringText s
  | .unpaired t => unpairedText t
  | .list items => '[' :: itemsChars items
  | .object members => '\x7b' :: membersChars members

/-- Items separated by commas, and the closing bracket. -/
def itemsChars : List Value → List Char
  | [] => [']']
  | [v] => v.chars ++ [']']
  | v :: vs => v.chars ++ ',' :: itemsChars vs

/-- Members separated by commas, and the closing brace. -/
def membersChars : List (String × Value) → List Char
  | [] => ['\x7d']
  | [(name, v)] => stringText name ++ ':' :: v.chars ++ ['\x7d']
  | (name, v) :: ms => stringText name ++ ':' :: v.chars ++ ',' :: membersChars ms
end

/-- The compact text of a value. -/
def Value.text (v : Value) : String :=
  String.ofList v.chars

end LabelPress.Json
