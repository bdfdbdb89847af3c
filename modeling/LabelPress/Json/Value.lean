import LabelPress.Number.Binary64
import LabelPress.Text.CodePoint

/-!
# Documents of the data format

A value is null, a truth value, a number, a string, a list or an object. Integers are unbounded and
kept apart from floating point numbers: `5` and `5.0` are different values. An object is the list of
its members in the order in which their names first appeared; no name occurs twice.

The format can write half of a surrogate pair as if it were a character. A string with such a half
in it is no text, so it is a value of its own kind.

## Main definitions

* `Value.ofPoints`: the string with given code points.
* `Value.member?`: the value of a member of an object.
* `Members.put`: adding or replacing a member.
-/

namespace LabelPress.Json

open LabelPress.Number LabelPress.Text

/-- A value of the data format. -/
inductive Value where
  | null
  | bool (b : Bool)
  | int (n : Int)
  | float (x : Binary64)
  | string (s : String)
  /-- A string that is no text, since it has halves of surrogate pairs in it. -/
  | unpaired (t : Unpaired)
  | list (items : List Value)
  | object (members : List (String × Value))
  deriving Repr, Inhabited

/-- The members of an object, in order. -/
abbrev Members := List (String × Value)

namespace Members

/-- The value of the member of the given name. -/
def get? (ms : Members) (name : String) : Option Value :=
  ms.lookup name

/-- Sets a member: in its place if the name is already there, at the end otherwise. -/
def put (ms : Members) (name : String) (v : Value) : Members :=
  match ms with
  | [] => [(name, v)]
  | (n, w) :: rest => if n = name then (n, v) :: rest else (n, w) :: Members.put rest name v

/-- Sets several members, the later ones last. -/
def putAll (ms : Members) (more : Members) : Members :=
  more.foldl (fun acc m => acc.put m.1 m.2) ms

/-- Whether there is a member of the given name. -/
def has (ms : Members) (name : String) : Bool :=
  ms.any (·.1 == name)

end Members

namespace Value

/-- The value of a member, if this is an object that has it. -/
def member? (v : Value) (name : String) : Option Value :=
  match v with
  | .object ms => Members.get? ms name
  | _ => none

/-- A sequence of code points as a string. -/
def ofPoints (t : RawText) : Value :=
  if h : RawText.isText t then .string (RawText.shown t) else .unpaired ⟨t, by simpa using h⟩

@[simp]
theorem ofPoints_ofText (s : String) : ofPoints (.ofText s) = .string s := by
  rw [ofPoints, dif_pos (RawText.isText_ofText s), RawText.shown_ofText]

/-- The string, if this is one that is a text. -/
def string? : Value → Option String
  | .string s => some s
  | _ => none

/-- The integer, if this is one. -/
def int? : Value → Option Int
  | .int n => some n
  | _ => none

/-- The items, if this is a list. -/
def list? : Value → Option (List Value)
  | .list items => some items
  | _ => none

/-- The members, if this is an object. -/
def members? : Value → Option Members
  | .object ms => some ms
  | _ => none

/-- Null for nothing, and the value itself otherwise. -/
def ofOption (f : α → Value) : Option α → Value
  | none => .null
  | some a => f a

end Value

end LabelPress.Json
