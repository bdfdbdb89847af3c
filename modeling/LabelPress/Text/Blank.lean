/-!
# White space and blanks

Two classes of characters and the trimming they drive.

* `isWhiteSpace` is the Unicode property `White_Space`. Integers may be surrounded by it.
* `isBlank` adds the four information separators U+001C to U+001F. Label documents, payloads and
  symbology names are stripped of blanks.

The zero width space, the Mongolian vowel separator and the byte order mark belong to neither.

## Main definitions

* `stripBy p s`: `s` without the elements satisfying `p` at either end.
* `strip`: `stripBy isBlank`.
-/

namespace LabelPress.Text

/-- The Unicode property `White_Space`. -/
def isWhiteSpace (c : Char) : Bool :=
  let n := c.toNat
  (0x09 ≤ n && n ≤ 0x0D) || n == 0x20 || n == 0x85 || n == 0xA0 || n == 0x1680 ||
    (0x2000 ≤ n && n ≤ 0x200A) || n == 0x2028 || n == 0x2029 || n == 0x202F || n == 0x205F ||
    n == 0x3000

/-- White space together with the information separators, which count as blank in running text
although they do not carry the property `White_Space`. -/
def isBlank (c : Char) : Bool :=
  isWhiteSpace c || (0x1C ≤ c.toNat && c.toNat ≤ 0x1F)

/-- Drops the longest run of elements satisfying `p` from the end of `s`. -/
def dropEnd {α : Type} (p : α → Bool) (s : List α) : List α :=
  (s.reverse.dropWhile p).reverse

/-- Drops the longest runs of elements satisfying `p` from both ends of `s`. -/
def stripBy {α : Type} (p : α → Bool) (s : List α) : List α :=
  dropEnd p (s.dropWhile p)

/-- Removes leading and trailing blanks. -/
def strip (s : List Char) : List Char :=
  stripBy isBlank s

end LabelPress.Text
