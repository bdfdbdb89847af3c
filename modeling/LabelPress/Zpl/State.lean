import LabelPress.Zpl.Command
import LabelPress.Zpl.Directive

/-!
# Reading a label line by line

The state that is carried from line to line: the current position, the symbology of a barcode
command that has no data yet, and data that has not been turned into a directive. A line updates the
position, then the symbology, then the data; when both symbology and data are there, they become a
directive at the current position and are cleared. The position stays.

## Main definitions

* `State.step`: the effect of one line, with the directive it completes.
* `State.orphan?`: field data that a line offers while no symbology is waiting for it.
-/

namespace LabelPress.Zpl

/-- What is remembered between lines. -/
structure State where
  /-- The current distance from the left edge. -/
  x : Int := 0
  /-- The current distance from the top edge. -/
  y : Int := 0
  /-- The symbology of the last barcode command, while its data is missing. -/
  pendingType : Option Symbology := none
  /-- Field data that no directive holds yet. -/
  pendingData : Option String := none
  deriving Repr, DecidableEq

/-- How far the next directive has come. -/
inductive Phase where
  /-- No barcode command is waiting. -/
  | idle
  /-- A barcode command waits for its data. -/
  | typePending
  /-- A directive is complete. -/
  | ready
  deriving Repr, DecidableEq

/-- The word for a phase. -/
def Phase.name : Phase → String
  | .idle => "idle"
  | .typePending => "type_pending"
  | .ready => "ready"

namespace State

/-- The state before the first line. -/
def initial : State := {}

/-- How far the next directive has come. -/
def phase (s : State) : Phase :=
  match s.pendingType, s.pendingData with
  | none, _ => .idle
  | some _, none => .typePending
  | some _, some _ => .ready

/-- Moves to the field origin of a line, if it has one. -/
def applyPosition (s : State) (line : List Char) : State :=
  match fieldOrigin? line with
  | some (x, y) => { s with x := x, y := y }
  | none => s

/-- Remembers the barcode command of a line, if it has one. -/
def applyType (s : State) (line : List Char) : State :=
  match barcodeCommand? line with
  | some t => { s with pendingType := some t }
  | none => s

/-- The field data of a line, if it has any that is not empty. -/
def lineData? (line : List Char) : Option String :=
  match fieldData? line with
  | some (c :: cs) => some (String.ofList (c :: cs))
  | _ => none

/-- Remembers the field data of a line if a barcode command waits for it. -/
def applyData (s : State) (line : List Char) : State :=
  match lineData? line, s.pendingType with
  | some field, some _ => { s with pendingData := some field }
  | _, _ => s

/-- Field data of a line that no barcode command waits for. -/
def orphan? (s : State) (line : List Char) : Option String :=
  match lineData? line, s.pendingType with
  | some field, none => some field
  | _, _ => none

/-- Turns symbology and data into a directive, if both are there. -/
def emit (s : State) : State × Option Directive :=
  match s.pendingType, s.pendingData with
  | some t, some field =>
    ({ s with pendingType := none, pendingData := none },
      some { symbology := t, data := field, x := s.x, y := s.y })
  | _, _ => (s, none)

/-- The state after the position and the barcode command of a line have been read. -/
def beforeData (s : State) (line : List Char) : State :=
  (s.applyPosition line).applyType line

/-- The effect of one line. -/
def step (s : State) (line : List Char) : State × Option Directive :=
  ((s.beforeData line).applyData line).emit

/-- The effect of several lines: the final state and the directives completed on the way. -/
def run (s : State) : List (List Char) → State × List Directive
  | [] => (s, [])
  | line :: rest =>
    let (next, found) := s.step line
    let (last, more) := next.run rest
    (last, found.toList ++ more)

/-- The field data dropped on the way through several lines. -/
def orphans (s : State) : List (List Char) → List String
  | [] => []
  | line :: rest => ((s.beforeData line).orphan? line).toList ++ (s.step line).1.orphans rest

end State

end LabelPress.Zpl
