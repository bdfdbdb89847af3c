/-!
# UTF-8

The octets that encode a text, and the text that octets encode. Octets that are not the encoding of
a character become the replacement character: one for the longest beginning of an encoding, and one
for every octet that begins none.

## Main definitions

* `utf8Bytes`: the octets of a text.
* `decodeUtf8`: the characters of octets.
-/

namespace LabelPress.Text

/-- The octets of a text. -/
def utf8Bytes (s : String) : List UInt8 :=
  s.toUTF8.data.toList

/-- What the first of several octets says about the others: how many follow, which bits it carries
itself, and between which bounds the second one lies. The bounds exclude encodings that are longer
than necessary, surrogates, and numbers beyond the last character. -/
structure Lead where
  /-- The number of octets that follow. -/
  tails : Nat
  /-- The bits of the first octet. -/
  bits : Nat
  /-- The least second octet. -/
  least : Nat
  /-- The greatest second octet. -/
  greatest : Nat
  deriving Repr, DecidableEq

/-- What an octet says as the first of several. -/
def lead? (n : Nat) : Option Lead :=
  if 0xC2 ≤ n && n ≤ 0xDF then some ⟨1, n - 0xC0, 0x80, 0xBF⟩
  else if n = 0xE0 then some ⟨2, 0, 0xA0, 0xBF⟩
  else if n = 0xED then some ⟨2, 0xD, 0x80, 0x9F⟩
  else if 0xE1 ≤ n && n ≤ 0xEF then some ⟨2, n - 0xE0, 0x80, 0xBF⟩
  else if n = 0xF0 then some ⟨3, 0, 0x90, 0xBF⟩
  else if 0xF1 ≤ n && n ≤ 0xF3 then some ⟨3, n - 0xF0, 0x80, 0xBF⟩
  else if n = 0xF4 then some ⟨3, 4, 0x80, 0x8F⟩
  else none

/-- Collects the bits of the octets that follow the first one, whose bits are given. Nothing is
collected if one of them is missing; what follows the good ones is returned in any case. -/
def collectTails (least greatest : Nat) : Nat → Nat → List UInt8 → Option Nat × List UInt8
  | 0, bits, bytes => (some bits, bytes)
  | _ + 1, _, [] => (none, [])
  | n + 1, bits, b :: rest =>
    if least ≤ b.toNat && b.toNat ≤ greatest then
      collectTails 0x80 0xBF n (bits * 0x40 + (b.toNat - 0x80)) rest
    else (none, b :: rest)

/-- The character that stands for octets that are not the encoding of one. -/
def replacementChar : Char := Char.ofNat 0xFFFD

/-- The character that octets begin with, and what follows it. -/
def takeChar (first : UInt8) (rest : List UInt8) : Char × List UInt8 :=
  if first.toNat < 0x80 then (Char.ofNat first.toNat, rest)
  else
    match lead? first.toNat with
    | none => (replacementChar, rest)
    | some l =>
      match collectTails l.least l.greatest l.tails l.bits rest with
      | (some n, after) => (Char.ofNat n, after)
      | (none, after) => (replacementChar, after)

/-- The characters of octets, given fuel for them. -/
def decodeUtf8With : Nat → List UInt8 → List Char
  | 0, _ => []
  | _, [] => []
  | fuel + 1, b :: rest =>
    let (c, after) := takeChar b rest
    c :: decodeUtf8With fuel after

/-- The characters that octets encode. -/
def decodeUtf8 (bytes : List UInt8) : List Char :=
  decodeUtf8With bytes.length bytes

end LabelPress.Text
