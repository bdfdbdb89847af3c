import LabelPress.Text.Blank
import LabelPress.Text.Search

/-!
# Lines of a label document

A label document is read line by line. Lines are stripped of blanks, carriage returns among them,
and empty lines are dropped.
-/

namespace LabelPress.Zpl

open LabelPress.Text

/-- The stripped lines of a document that are not empty, in order. -/
def documentLines (text : List Char) : List (List Char) :=
  ((lines text).map strip).filter fun line => !line.isEmpty

end LabelPress.Zpl
