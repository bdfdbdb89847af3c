import LabelPress.Event
import LabelPress.Zpl.Document

/-!
# What is reported about a document

Field data that belongs to no barcode command is reported as it is dropped; then a barcode command
at the end whose data never came; and last the number of lines and of directives. Nothing is
reported about a document without lines.
-/

namespace LabelPress.Zpl

/-- The events reported while a document is read. -/
def events (text : String) : List Event :=
  let lines := documentLines text.toList
  if lines.isEmpty then []
  else
    (orphanedData text).map Event.orphanedData
      ++ (danglingType? text).toList.map Event.danglingType
      ++ [.documentRead lines.length (directives text).length]

end LabelPress.Zpl
