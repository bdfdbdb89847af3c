import LabelPress.Fault
import LabelPress.Json.Value

/-!
# Named arguments

Settings of renderers come as an object, one member for each named argument. Every name must be one
that is expected, and the ones without a default must be there. The owner of the arguments is
itself an argument, named `self`, that is already given.

## Main definitions

* `Parameters`: what is expected.
* `Parameters.check`: the first thing that is wrong with given arguments.
-/

namespace LabelPress.Json

/-- The arguments that are expected, by name. -/
structure Parameters where
  /-- What the arguments are for, as messages put it. -/
  callable : String
  /-- The arguments that must be given. -/
  needed : List String
  /-- The arguments that may be given. -/
  possible : List String
  deriving Repr, DecidableEq

namespace Parameters

/-- The name of the argument that is always given already. -/
def owner : String := "self"

/-- What is wrong with a name among the given ones. -/
def wrongName? (p : Parameters) (name : String) : Option Fault :=
  if name = owner then some (.repeatedArgument p.callable name)
  else if p.needed.contains name || p.possible.contains name then none
  else some (.unexpectedArgument p.callable name)

/-- Refuses names that are not expected, and then the absence of those that are needed. -/
def check (p : Parameters) (given : Members) : Except Fault Unit :=
  match given.findSome? fun m => p.wrongName? m.1 with
  | some f => .error f
  | none =>
    match p.needed.filter fun name => !given.has name with
    | [] => .ok ()
    | missing => .error (.missingArguments p.callable missing)

end Parameters

end LabelPress.Json
