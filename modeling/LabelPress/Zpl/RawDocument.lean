import LabelPress.Text.CodePoint
import LabelPress.Zpl.Document

/-!
# Label documents that need not be texts

A document as it was sent can have halves of surrogate pairs in it. None of them is a newline or a
blank or part of a command, so the document is read like any other one; only the data of a field can
have such a half in it. Here the reader goes over the text that is shown for the document, and with
every directive comes its data as it stands in the line that completed it.

## Main definitions

* `rawLines`: the lines of a document, code point by code point.
* `State.trail`: the lines together with the states in which they are read.
* `rawDirectives`: the directives of a document with their data.
-/

namespace LabelPress.Zpl

open LabelPress.Text

/-- A directive with the data as it stands in the document. In the directive itself stands what is
shown for it. -/
structure RawDirective where
  /-- The directive. -/
  directive : Directive
  /-- The data. -/
  data : RawText

/-- The stripped lines of a document that are not empty, in order. -/
def rawLines (t : RawText) : List RawText :=
  ((pieces (·.satisfies (· = '\n')) t).map (stripBy (·.satisfies isBlank))).filter
    fun line => !line.isEmpty

/-- The first field of a line. It is where the reader finds it in the characters of the line. -/
def rawField? : RawText → Option RawText
  | [] => none
  | p :: ps =>
    match if dataMark.isPrefixOf (RawText.chars ((p :: ps).take 3)) then
        fieldText? (RawText.chars (ps.drop 2)) else none with
    | some field => some ((ps.drop 2).take field.length)
    | none => rawField? ps

/-- Several lines, each with the state in which it is read. -/
def State.trail (s : State) : List RawText → List (State × RawText)
  | [] => []
  | line :: rest => (s, line) :: (s.step (RawText.chars line)).1.trail rest

/-- The directive that a line completes, with the field of that line. -/
def State.rawStep? (s : State) (line : RawText) : Option RawDirective :=
  (s.step (RawText.chars line)).2.map fun d => ⟨d, (rawField? line).getD []⟩

/-- The directives of a document, in order. -/
def rawDirectives (t : RawText) : List RawDirective :=
  (State.initial.trail (rawLines t)).filterMap fun (s, line) => s.rawStep? line

end LabelPress.Zpl
