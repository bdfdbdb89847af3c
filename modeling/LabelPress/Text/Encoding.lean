import LabelPress.Text.CodePoint

/-!
# Encodings of documents

A document may be sent in UTF-8, UTF-16 or UTF-32. It begins with two ASCII characters at least, or
is very short, so the zeros among its first four octets tell which encoding it is in and which octet
of a unit comes first.

An octet sequence whose length is not a whole number of units, or that has a unit beyond the last
code point, encodes nothing. What units encode need not be a text: half of a surrogate pair is kept
where the other half is missing.

A byte order mark at the beginning of a text in UTF-8 is no part of the text.

## Main definitions

* `dropByteOrderMark`: a text without its mark.
* `Encoding.detect`: the encoding of a document.
* `decodeUtf16`, `decodeUtf32`: the code points of octets in these encodings.
-/

namespace LabelPress.Text

/-- Drops one byte order mark from the front of a text. -/
def dropByteOrderMark : List Char → List Char
  | '\uFEFF' :: rest => rest
  | s => s

/-- The order of the octets of a unit. -/
inductive ByteOrder where
  /-- The most significant octet comes first. -/
  | big
  /-- The least significant octet comes first. -/
  | little
  deriving Repr, DecidableEq

/-- An encoding of documents. -/
inductive Encoding where
  | utf8
  | utf16 (order : ByteOrder)
  | utf32 (order : ByteOrder)
  deriving Repr, DecidableEq

/-- The encoding of a document, by its first octets. -/
def Encoding.detect : List UInt8 → Encoding
  | a :: b :: c :: d :: _ =>
    if a = 0 then (if b = 0 then .utf32 .big else .utf16 .big)
    else if b = 0 then (if c = 0 && d = 0 then .utf32 .little else .utf16 .little)
    else .utf8
  | [a, b] => if a = 0 then .utf16 .big else if b = 0 then .utf16 .little else .utf8
  | _ => .utf8

/-- The number that octets form in a byte order. -/
def ByteOrder.join (order : ByteOrder) (octets : List UInt8) : Nat :=
  let digits := match order with
    | .big => octets
    | .little => octets.reverse
  digits.foldl (fun total b => total * 0x100 + b.toNat) 0

/-- The units of two octets in a sequence. -/
def units16? (order : ByteOrder) : List UInt8 → Option (List Nat)
  | [] => some []
  | a :: b :: rest => (units16? order rest).map (order.join [a, b] :: ·)
  | _ => none

/-- The units of four octets in a sequence. -/
def units32? (order : ByteOrder) : List UInt8 → Option (List Nat)
  | [] => some []
  | a :: b :: c :: d :: rest => (units32? order rest).map (order.join [a, b, c, d] :: ·)
  | _ => none

/-- The character that a pair of surrogates stands for. -/
def joinSurrogates (high low : Nat) : Char :=
  Char.ofNat (0x10000 + (high - 0xD800) * 0x400 + (low - 0xDC00))

/-- The code points of units of two octets. -/
def pairSurrogates : List Nat → RawText
  | high :: low :: rest =>
    if isHighSurrogate high && isLowSurrogate low then
      .char (joinSurrogates high low) :: pairSurrogates rest
    else .ofNat high :: pairSurrogates (low :: rest)
  | [n] => [.ofNat n]
  | [] => []

/-- The code points of octets in UTF-16. -/
def decodeUtf16 (order : ByteOrder) (octets : List UInt8) : Option RawText :=
  (units16? order octets).map pairSurrogates

/-- The last code point. -/
def lastCodePoint : Nat := 0x10FFFF

/-- The code points of octets in UTF-32. -/
def decodeUtf32 (order : ByteOrder) (octets : List UInt8) : Option RawText :=
  match units32? order octets with
  | none => none
  | some units => if units.all (· ≤ lastCodePoint) then some (units.map .ofNat) else none

end LabelPress.Text
