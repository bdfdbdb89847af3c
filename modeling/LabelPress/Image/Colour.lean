import LabelPress.Image.Pixel
import LabelPress.Json.Numeric

/-!
# Colours written as text

A colour is written as six characters, three pairs for red, green and blue, after any number of
number signs. Each pair is read as an integer in base sixteen by the generous rules for integers, so
a pair may also be a digit with a sign or with white space beside it, and a part can be negative.
When a colour is painted, parts outside a byte are cut to the nearest byte.
-/

namespace LabelPress.Image

open LabelPress.Json LabelPress.Text

/-- A colour as it was written. -/
structure Colour where
  /-- The red part. -/
  red : Int
  /-- The green part. -/
  green : Int
  /-- The blue part. -/
  blue : Int
  deriving Repr, DecidableEq

namespace Colour

/-- Cuts an integer to the nearest byte. -/
def clampByte (n : Int) : UInt8 :=
  UInt8.ofNat (min n.toNat 255)

/-- The colour that is painted. -/
def toRgb (c : Colour) : Rgb :=
  ⟨clampByte c.red, clampByte c.green, clampByte c.blue⟩

/-- Whether every part is a byte. -/
def inRange (c : Colour) : Prop :=
  (0 ≤ c.red ∧ c.red ≤ 255) ∧ (0 ≤ c.green ∧ c.green ≤ 255) ∧ (0 ≤ c.blue ∧ c.blue ≤ 255)

/-- One part of a colour, written as two characters. -/
def readPart? (a b : Char) : Option Int :=
  (readInteger 16 [a, b]).value?

/-- Reads a colour from its characters. -/
def readChars (s : List Char) : Except Fault Colour :=
  match s.dropWhile (· = '#') with
  | [a, b, c, d, e, f] =>
    match readPart? a b, readPart? c d, readPart? e f with
    | some r, some g, some l => .ok ⟨r, g, l⟩
    | _, _, _ => .error (.colourDigits (String.ofList [a, b, c, d, e, f]))
  | body => .error (.colourLength body.length)

/-- Reads a colour. -/
def read (s : String) : Except Fault Colour :=
  readChars s.toList

/-- Reads a colour from a value, which must be a string. -/
def ofValue (v : Value) : Except Fault Colour :=
  match v.toText "lstrip" with
  | .error f => .error f
  | .ok s => read s

end Colour

end LabelPress.Image
