import LabelPress.Text.Hex
import LabelPress.Text.Search
import LabelPress.Text.Utf8

/-!
# Percent-encoding

Octets that may not stand in an address are written as a percent sign and two hexadecimal digits.
Reading an address turns such triples into octets and the octets into characters.

## Main definitions

* `percentDecode`: the text that a percent-encoded text stands for.
* `percentEncode`: a text with all octets encoded but those of given characters.
* `formPairs`, `formText`: the parameters of a query, and the query with given parameters.
-/

namespace LabelPress.Text

/-- The octets of a percent-encoded text. -/
def percentBytes : List Char → List UInt8
  | [] => []
  | '%' :: a :: b :: rest =>
    match hexValue? a, hexValue? b with
    | some x, some y => UInt8.ofNat (x * 16 + y) :: percentBytes rest
    | _, _ => 0x25 :: percentBytes (a :: b :: rest)
  | c :: rest => String.utf8EncodeChar c ++ percentBytes rest

/-- The text that a percent-encoded text stands for. -/
def percentDecode (s : List Char) : List Char :=
  decodeUtf8 (percentBytes s)

/-- Letters, digits and the four marks that never need encoding. -/
def isUnreserved (c : Char) : Bool :=
  c.isAlphanum || c == '_' || c == '.' || c == '-' || c == '~'

/-- An octet as a percent sign and two digits. -/
def percentByte (b : UInt8) : List Char :=
  '%' :: (hexText 2 b.toNat).map Char.toUpper

/-- A text in which everything is encoded but unreserved characters and those satisfying `safe`. -/
def percentEncode (safe : Char → Bool) (s : List Char) : List Char :=
  s.flatMap fun c =>
    if isUnreserved c || safe c then [c] else (String.utf8EncodeChar c).flatMap percentByte

/-- The name or the value of a parameter in an address: blanks become plus signs. -/
def formEncode (s : List Char) : List Char :=
  (percentEncode (· = ' ') s).map fun c => if c = ' ' then '+' else c

/-- The query with given parameters. -/
def formText (pairs : List (String × String)) : String :=
  String.ofList <| ['&'].intercalate <|
    pairs.map fun p => formEncode p.1.toList ++ '=' :: formEncode p.2.toList

/-- A name or a value of a parameter as it stands in an address. -/
def formDecode (s : List Char) : List Char :=
  percentDecode (s.map fun c => if c = '+' then ' ' else c)

/-- A parameter: the name before the first equals sign and the value after it. -/
def formPair (s : List Char) : String × String :=
  (String.ofList (formDecode (s.takeWhile (· ≠ '='))),
    String.ofList (formDecode ((s.dropWhile (· ≠ '=')).drop 1)))

/-- The parameters of a query. Nothing between two ampersands is no parameter. -/
def formPairs (query : String) : List (String × String) :=
  ((splitAt '&' query.toList).filter (!·.isEmpty)).map formPair

end LabelPress.Text
