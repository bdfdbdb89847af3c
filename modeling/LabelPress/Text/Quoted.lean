import LabelPress.Text.Hex
import LabelPress.Text.Printable

/-!
# Quoted text

Messages show a piece of text between quotes, with escapes for what would not be visible.

The quote is an apostrophe, unless the text contains an apostrophe and no double quote. The quote
itself and the backslash are escaped by a backslash, tab, newline and carriage return by their
letters, and any other character that is not printable by its code point in hexadecimal: two digits
after `\x`, four after `\u`, eight after `\U`.
-/

namespace LabelPress.Text

/-- The quote that surrounds a text. -/
def quoteFor (s : List Char) : Char :=
  if s.contains '\'' && !s.contains '"' then '"' else '\''

/-- One character inside quotes. -/
def quoteChar (quote c : Char) : List Char :=
  if c = quote || c = '\\' then ['\\', c]
  else if c = '\t' then ['\\', 't']
  else if c = '\n' then ['\\', 'n']
  else if c = '\r' then ['\\', 'r']
  else if isPrintable c then [c]
  else if c.toNat < 0x100 then '\\' :: 'x' :: hexText 2 c.toNat
  else if c.toNat < 0x10000 then '\\' :: 'u' :: hexText 4 c.toNat
  else '\\' :: 'U' :: hexText 8 c.toNat

/-- A text between quotes. -/
def quotedChars (s : List Char) : List Char :=
  quoteFor s :: s.flatMap (quoteChar (quoteFor s)) ++ [quoteFor s]

/-- A string between quotes. -/
def quoted (s : String) : String :=
  String.ofList (quotedChars s.toList)

end LabelPress.Text
