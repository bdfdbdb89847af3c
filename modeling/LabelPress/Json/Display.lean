import LabelPress.Json.Printer
import LabelPress.Text.Integer

/-!
# Showing values in messages

Messages and log events show a value in a notation of its own: a string stands as it is when it is
the whole value and quoted when it is part of a list or an object, truth values and null are
capitalised, items and members are separated by a comma and a blank.
-/

namespace LabelPress.Json

open LabelPress.Text LabelPress.Number

mutual
/-- A value as part of another. -/
def Value.shownInside : Value → List Char
  | .null => "None".toList
  | .bool true => "True".toList
  | .bool false => "False".toList
  | .int n => intText n
  | .float x => x.shortestText
  | .string s => quotedChars s.toList
  | .unpaired t => RawText.quoted t.points
  | .list items => '[' :: shownItems items
  | .object members => '\x7b' :: shownMembers members

/-- Items of a list, and the closing bracket. -/
def shownItems : List Value → List Char
  | [] => [']']
  | [v] => v.shownInside ++ [']']
  | v :: vs => v.shownInside ++ ',' :: ' ' :: shownItems vs

/-- Members of an object, and the closing brace. -/
def shownMembers : List (String × Value) → List Char
  | [] => ['\x7d']
  | [(name, v)] => quotedChars name.toList ++ ':' :: ' ' :: v.shownInside ++ ['\x7d']
  | (name, v) :: ms =>
    quotedChars name.toList ++ ':' :: ' ' :: v.shownInside ++ ',' :: ' ' :: shownMembers ms
end

/-- A value as it is shown on its own. -/
def Value.shown : Value → String
  | .string s => s
  | .unpaired t => t.shown
  | v => String.ofList v.shownInside

mutual
/-- Whether a value can be written: no integer in it has more digits than are converted. -/
def Value.isWritable : Value → Bool
  | .int n => (digitsText n.natAbs).length ≤ maxDigits
  | .list items => areWritable items
  | .object members => areMembersWritable members
  | _ => true

/-- Whether all values in a list can be written. -/
def areWritable : List Value → Bool
  | [] => true
  | v :: vs => v.isWritable && areWritable vs

/-- Whether all values of members can be written. -/
def areMembersWritable : List (String × Value) → Bool
  | [] => true
  | (_, v) :: ms => v.isWritable && areMembersWritable ms
end

/-- The name of a kind of value in messages. -/
def Value.kindName : Value → String
  | .null => "NoneType"
  | .bool _ => "bool"
  | .int _ => "int"
  | .float _ => "float"
  | .string _ | .unpaired _ => "str"
  | .list _ => "list"
  | .object _ => "dict"

end LabelPress.Json
