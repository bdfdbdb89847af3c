import LabelPress.Text.CodePoint

/-!
# Faults

Everything that can go wrong while a barcode is prepared and rendered, as causes. `Fault.message`
words them and `Fault.kind` classifies them; the classes matter because faults of the value class
are the caller's and all others are the service's.

Options of renderers may be values of any kind, so many causes are about a value of a kind that does
not suit its purpose. Such a cause carries the name of that kind.

A rendering engine can also *abort*. An abort is not a fault: nothing recovers from it.

## Main definitions

* `Fault`: the causes.
* `Stop`: a fault or an abort.
-/

namespace LabelPress

open LabelPress.Text

/-- The class of a fault. -/
inductive FaultKind where
  | value
  | unicode
  | type
  | runtime
  | system
  | key
  | index
  | notImplemented
  | zeroDivision
  | assertion
  | overflow
  | missingAttribute
  | recursion
  | memory
  | decoding
  deriving Repr, DecidableEq

/-- Whether faults of this class are due to a value that was passed in. Faults about the encoding of
text and about the form of a document are among them. -/
def FaultKind.isValue : FaultKind → Bool
  | .value | .unicode | .decoding => true
  | _ => false

/-- Why a barcode could not be prepared or rendered. -/
inductive Fault where
  /-- A text that should be an integer is not one. -/
  | notAnInteger (text : String)
  /-- A string that should be an integer is not even a text. -/
  | unpairedInteger (t : Unpaired)
  /-- An integer has more digits than are converted. -/
  | tooManyDigits (count : Nat)
  /-- An integer has more digits than are written. -/
  | unwritableInteger
  /-- A string cannot be encoded, since it has halves of surrogate pairs in it. -/
  | unencodable (run : HalfRun)
  /-- A value of this kind cannot be turned into an integer. -/
  | notNumeric (kindName : String)
  /-- A value of this kind does not stand in such a relation to integers. -/
  | incomparable (relation kindName : String)
  /-- A value of this kind cannot be used as an integer. -/
  | notWhole (kindName : String)
  /-- A value of this kind has no such attribute. -/
  | lacksAttribute (kindName wanted : String)
  /-- A value of this kind cannot be gone through item by item. -/
  | notIterable (kindName : String)
  /-- A value of this kind contains nothing. -/
  | notContainer (kindName : String)
  /-- A list has no items by name. -/
  | listIndex
  /-- A string has no items by name. -/
  | stringIndex
  /-- A value of this kind cannot be a name. -/
  | unhashable (kindName : String)
  /-- The item at this index is not a pair, since it has no items. -/
  | itemNotPair (index : Nat)
  /-- The item at this index is not a pair, since it has this many items. -/
  | itemLength (index length : Nat)
  /-- An argument is not among those that are expected. -/
  | unexpectedArgument (callable argument : String)
  /-- An argument is given twice. -/
  | repeatedArgument (callable argument : String)
  /-- Arguments are missing. -/
  | missingArguments (callable : String) (arguments : List String)
  /-- An infinite number was to be turned into an integer. -/
  | infiniteNumber
  /-- An undefined number was to be turned into an integer. -/
  | undefinedNumber
  /-- There is nothing to encode for the named renderer. -/
  | emptyPayload (renderer : String)
  /-- A raster image cannot be scaled by less than one. -/
  | scaleTooSmall
  /-- A Data Matrix payload exceeds the bytes allowed. -/
  | payloadTooLarge
  /-- The Data Matrix encoder is not installed. -/
  | encoderUnavailable
  /-- The Data Matrix encoder returned too few pixels for its own size. -/
  | incompleteImage
  /-- An image without pixels cannot be enlarged. -/
  | emptyEnlargement
  /-- An image without pixels cannot be written to a file. -/
  | emptyImage
  /-- A colour has this many characters instead of six. -/
  | colourLength (count : Nat)
  /-- Six characters do not form a colour. -/
  | colourDigits (text : String)
  /-- No QR version holds the payload. -/
  | versionOverflow
  /-- The QR error correction level is unknown. -/
  | unknownLevel
  /-- The side of a QR image is not positive. -/
  | sizeNotPositive
  /-- The margin of a QR image is negative. -/
  | marginNegative
  /-- A number is too large for floating point. -/
  | floatOverflow
  /-- A number is too large for a machine word. -/
  | wordOverflow
  /-- The side of an image is too long. -/
  | sideOverflow
  /-- A rendering engine failed. -/
  | engine (kind : FaultKind) (message : String)
  deriving Repr, DecidableEq

namespace Fault

/-- The class of a fault. -/
def kind : Fault → FaultKind
  | .notNumeric _ | .incomparable .. | .notWhole _ | .notIterable _ | .notContainer _ | .listIndex
  | .stringIndex | .unhashable _ | .itemNotPair _ | .unexpectedArgument .. | .repeatedArgument ..
  | .missingArguments .. => .type
  | .lacksAttribute .. => .missingAttribute
  | .infiniteNumber | .floatOverflow | .wordOverflow | .sideOverflow => .overflow
  | .unencodable _ => .unicode
  | .encoderUnavailable => .notImplemented
  | .engine k _ => k
  | _ => .value

/-- How much of a quoted text a message shows. -/
def quotedLimit : Nat := 200

/-- Names between apostrophes, the last two joined by `and`. -/
def listed : List String → String
  | [] => ""
  | [a] => "'" ++ a ++ "'"
  | [a, b] => "'" ++ a ++ "' and '" ++ b ++ "'"
  | a :: rest => "'" ++ a ++ "', " ++ listed rest

/-- The place of a run of halves and what stands there, as messages put it. -/
def runPlace (r : HalfRun) : String :=
  if r.more = 0 then
    "character '\\u" ++ String.ofList (hexText 4 r.first.number) ++ "' in position "
      ++ toString r.position
  else "characters in position " ++ toString r.position ++ "-" ++ toString (r.position + r.more)

/-- The wording of a fault. -/
def message : Fault → String
  | .notAnInteger text =>
    "invalid literal for int() with base 10: "
      ++ String.ofList ((quotedChars text.toList).take quotedLimit)
  | .unpairedInteger t =>
    "invalid literal for int() with base 10: "
      ++ String.ofList ((RawText.quoted t.points).take quotedLimit)
  | .tooManyDigits n =>
    "Exceeds the limit (4300 digits) for integer string conversion: value has " ++ toString n ++
      " digits; use sys.set_int_max_str_digits() to increase the limit"
  | .unwritableInteger =>
    "Exceeds the limit (4300 digits) for integer string conversion; "
      ++ "use sys.set_int_max_str_digits() to increase the limit"
  | .unencodable run => "'utf-8' codec can't encode " ++ runPlace run ++ ": surrogates not allowed"
  | .notNumeric name =>
    "int() argument must be a string, a bytes-like object or a real number, not '" ++ name ++ "'"
  | .incomparable relation name =>
    "'" ++ relation ++ "' not supported between instances of '" ++ name ++ "' and 'int'"
  | .notWhole name => "'" ++ name ++ "' object cannot be interpreted as an integer"
  | .lacksAttribute name wanted =>
    "'" ++ name ++ "' object has no attribute '" ++ wanted ++ "'"
  | .notIterable name => "'" ++ name ++ "' object is not iterable"
  | .notContainer name => "argument of type '" ++ name ++ "' is not iterable"
  | .listIndex => "list indices must be integers or slices, not str"
  | .stringIndex => "string indices must be integers, not 'str'"
  | .unhashable name => "unhashable type: '" ++ name ++ "'"
  | .itemNotPair i =>
    "cannot convert dictionary update sequence element #" ++ toString i ++ " to a sequence"
  | .itemLength i n =>
    "dictionary update sequence element #" ++ toString i ++ " has length " ++ toString n
      ++ "; 2 is required"
  | .unexpectedArgument callable argument =>
    callable ++ "() got an unexpected keyword argument '" ++ argument ++ "'"
  | .repeatedArgument callable argument =>
    callable ++ "() got multiple values for argument '" ++ argument ++ "'"
  | .missingArguments callable names =>
    callable ++ "() missing " ++ toString names.length ++ " required positional argument"
      ++ (if names.length = 1 then "" else "s") ++ ": " ++ listed names
  | .infiniteNumber => "cannot convert float infinity to integer"
  | .undefinedNumber => "cannot convert float NaN to integer"
  | .emptyPayload renderer => renderer ++ " payload cannot be empty"
  | .scaleTooSmall => "scale must be at least 1"
  | .payloadTooLarge => "DataMatrix payload is too large for configured profile"
  | .encoderUnavailable =>
    "DataMatrix rendering unavailable. Install pylibdmtx and libdmtx runtime dependencies."
  | .incompleteImage => "not enough image data"
  | .emptyEnlargement => "height and width must be > 0"
  | .emptyImage => "cannot write empty image"
  | .colourLength n => "Invalid hex color: must be 6 characters, got " ++ toString n
  | .colourDigits text => "Invalid hex color: " ++ text
  | .versionOverflow => "Invalid version (was 41, expected 1 to 40)"
  | .unknownLevel => "error_correction must be one of L, M, Q, H"
  | .sizeNotPositive => "size must be a positive integer"
  | .marginNegative => "margin cannot be negative"
  | .floatOverflow => "int too large to convert to float"
  | .wordOverflow => "Python int too large to convert to C long"
  | .sideOverflow => "signed integer is greater than maximum"
  | .engine .key text => quoted text
  | .engine _ text => text

/-- Whether the fault is due to a value that was passed in. -/
def isValue (f : Fault) : Bool :=
  f.kind.isValue

end Fault

/-- What ends a rendering without an image. -/
inductive Stop where
  /-- Something went wrong that callers may recover from. -/
  | fault (cause : Fault)
  /-- An engine gave up in a way that nothing recovers from. -/
  | abort (message : String)
  deriving Repr, DecidableEq

end LabelPress
