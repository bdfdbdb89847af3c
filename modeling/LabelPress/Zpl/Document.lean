import LabelPress.Zpl.Line
import LabelPress.Zpl.State

/-!
# Label documents

The directives of a whole document: its lines in order, read from the initial state.
-/

namespace LabelPress.Zpl

/-- The state after the last line of a document, and the directives found. -/
def readDocument (text : List Char) : State × List Directive :=
  State.initial.run (documentLines text)

/-- The directives of a document, in order. -/
def directives (text : String) : List Directive :=
  (readDocument text.toList).2

/-- The field data of a document that belongs to no barcode command. -/
def orphanedData (text : String) : List String :=
  State.initial.orphans (documentLines text.toList)

/-- The symbology of a barcode command at the end of a document whose data never came. -/
def danglingType? (text : String) : Option Symbology :=
  (readDocument text.toList).1.pendingType

end LabelPress.Zpl
