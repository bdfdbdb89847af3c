import LabelPress.Json.Numeric
import LabelPress.Number.Numeral
import LabelPress.Text.Encoding

/-!
# Templates of events

The event of a log message may have places for arguments. A place begins with a percent sign and
ends with the letter of a conversion; two percent signs in a row stand for one. In between there may
be, in this order,

* the name of a member in parentheses, if the arguments are an object,
* flags: `-` for alignment to the left, `+` or a blank for the sign of positive numbers, `#` for the
  alternate form, `0` for zeros instead of blanks,
* a width, and after a point a precision; an asterisk takes either from the arguments,
* one of the letters `h`, `l` and `L`, which means nothing.

Every place takes one argument, or the member that it names. There must be as many arguments as
places that take one, but an object or a list that serves as the only argument may be left unused.

## Main definitions

* `Arguments`: what a template is filled in with.
* `fill`: a template with its arguments.
-/

namespace LabelPress.Template

open LabelPress.Json LabelPress.Number LabelPress.Text

/-- Why a template cannot be filled in. -/
inductive TemplateFault where
  /-- There are fewer arguments than places. -/
  | tooFew
  /-- There are more arguments than places. -/
  | tooMany
  /-- A place names a member, but the arguments are not an object. -/
  | noMapping
  /-- A list was asked for a named member. -/
  | listMember
  /-- An object has no member of this name. -/
  | noMember (name : String)
  /-- The name of a member is not closed. -/
  | openName
  /-- The template ends inside a place. -/
  | openPlace
  /-- The argument for a width or a precision is not an integer. -/
  | widthNotInteger
  /-- A width is too large. -/
  | widthTooLarge
  /-- A precision is too large. -/
  | precisionTooLarge
  /-- The argument for a width is too large. -/
  | widthArgument
  /-- The argument for a precision is too large. -/
  | precisionArgument
  /-- There is no conversion for this letter, which stands at this position. -/
  | unknownConversion (letter : Char) (position : Nat)
  /-- An argument of this kind is not a number, as the conversion needs it. -/
  | notNumber (conversion : Char) (kindName : String)
  /-- An argument of this kind is not an integer, as the conversion needs it. -/
  | notInteger (conversion : Char) (kindName : String)
  /-- An argument of this kind is not a number. -/
  | notReal (kindName : String)
  /-- An argument is not a character. -/
  | notCharacter
  /-- An integer is not the code point of a character. -/
  | noCharacter
  /-- A text would be longer than memory holds. -/
  | tooLong
  /-- A number cannot be converted. -/
  | number (cause : Fault)
  deriving Repr, DecidableEq

namespace TemplateFault

/-- The class of a fault. -/
def kind : TemplateFault → FaultKind
  | noMember _ => .key
  | openName | openPlace | widthTooLarge | precisionTooLarge | unknownConversion .. => .value
  | widthArgument | precisionArgument | noCharacter => .overflow
  | tooLong => .memory
  | number cause => cause.kind
  | _ => .type

/-- The letter of a conversion as messages show it. -/
def shownLetter (c : Char) : String :=
  if 31 ≤ c.toNat && c.toNat ≤ 126 then c.toString else "?"

/-- The wording of a fault. -/
def message : TemplateFault → String
  | tooFew => "not enough arguments for format string"
  | tooMany => "not all arguments converted during string formatting"
  | noMapping => "format requires a mapping"
  | listMember => Fault.listIndex.message
  | noMember name => quoted name
  | openName => "incomplete format key"
  | openPlace => "incomplete format"
  | widthNotInteger => "* wants int"
  | widthTooLarge => "width too big"
  | precisionTooLarge => "precision too big"
  | widthArgument => "Python int too large to convert to C ssize_t"
  | precisionArgument => "Python int too large to convert to C int"
  | unknownConversion c position =>
    "unsupported format character '" ++ shownLetter c ++ "' (0x"
      ++ String.ofList (Nat.toDigits 16 c.toNat) ++ ") at index " ++ toString position
  | notNumber c name => "%" ++ c.toString ++ " format: a real number is required, not " ++ name
  | notInteger c name => "%" ++ c.toString ++ " format: an integer is required, not " ++ name
  | notReal name => "must be real number, not " ++ name
  | notCharacter => "%c requires int or char"
  | noCharacter => "%c arg not in range(0x110000)"
  | tooLong => ""
  | number cause => cause.message

end TemplateFault

/-- What a template is filled in with: the arguments that have not been used, and the value whose
members places can name. -/
structure Arguments where
  /-- The arguments that have not been used. -/
  unused : List Value
  /-- The value whose members can be named. -/
  mapping : Option Value

namespace Arguments

/-- Several arguments. -/
def several (items : List Value) : Arguments := ⟨items, none⟩

/-- A single argument. The members of an object or a list can be named. -/
def single (v : Value) : Arguments :=
  ⟨[v], match v with
    | .object _ | .list _ => some v
    | _ => none⟩

/-- The next argument. -/
def next (a : Arguments) : Except TemplateFault (Value × Arguments) :=
  match a.unused with
  | v :: rest => .ok (v, { a with unused := rest })
  | [] => .error .tooFew

/-- The member of a value that a place names. -/
def member (v : Value) (name : String) : Except TemplateFault Value :=
  match v with
  | .object ms =>
    match Members.get? ms name with
    | some w => .ok w
    | none => .error (.noMember name)
  | _ => .error .listMember

end Arguments

/-! ### Reading a place

Every reader takes the text behind what has been read so far and returns what follows its own
part. -/

/-- The flags of a place. -/
structure Flags where
  /-- Whether the text is aligned to the left. -/
  left : Bool := false
  /-- Whether positive numbers have a sign. -/
  sign : Bool := false
  /-- Whether positive numbers have a blank in the place of the sign. -/
  blank : Bool := false
  /-- Whether the alternate form is meant. -/
  alternate : Bool := false
  /-- Whether zeros fill up the width instead of blanks. -/
  zero : Bool := false
  deriving Repr, DecidableEq

/-- Sets the flag of a character, if there is one. -/
def Flags.set? (f : Flags) (c : Char) : Option Flags :=
  if c = '-' then some { f with left := true }
  else if c = '+' then some { f with sign := true }
  else if c = ' ' then some { f with blank := true }
  else if c = '#' then some { f with alternate := true }
  else if c = '0' then some { f with zero := true }
  else none

/-- Reads flags. -/
def readFlags (f : Flags) : List Char → Flags × List Char
  | c :: cs =>
    match f.set? c with
    | some g => readFlags g cs
    | none => (f, c :: cs)
  | [] => (f, [])

/-- The name of a member up to the parenthesis that closes it, given the number of parentheses that
are open. -/
def readName : Nat → List Char → Option (List Char × List Char)
  | _, [] => none
  | 0, _ => none
  | depth + 1, c :: cs =>
    if c = ')' then
      if depth = 0 then some ([], cs)
      else (readName depth cs).map fun (name, rest) => (c :: name, rest)
    else
      (readName (if c = '(' then depth + 2 else depth + 1) cs).map fun (name, rest) =>
        (c :: name, rest)

/-- Reads the name of a member, which becomes the next argument. -/
def readMember (a : Arguments) (s : List Char) : Except TemplateFault (Arguments × List Char) :=
  match s with
  | '(' :: cs =>
    match a.mapping with
    | none => .error .noMapping
    | some m =>
      match readName 1 cs with
      | none => .error .openName
      | some (name, rest) =>
        (Arguments.member m (String.ofList name)).map fun v => ({ a with unused := [v] }, rest)
  | _ => .ok (a, s)

/-- Takes an integer from the arguments. -/
def nextInteger (a : Arguments) : Except TemplateFault (Int × Arguments) :=
  match a.next with
  | .error f => .error f
  | .ok (.int n, rest) => .ok (n, rest)
  | .ok (.bool b, rest) => .ok (if b then 1 else 0, rest)
  | .ok _ => .error .widthNotInteger

/-- The greatest width. -/
def maxWidth : Int := 0x7FFFFFFFFFFFFFFF

/-- The greatest precision. -/
def maxPrecision : Int := 0x7FFFFFFF

/-- A number in ASCII digits at the front of a text, if there is one. -/
def numeral? (s : List Char) : Option (Nat × List Char) :=
  match s.takeWhile isAsciiDigit with
  | [] => none
  | digits => some (decimalValue (digits.map asciiDigitValue), s.dropWhile isAsciiDigit)

/-- What has been read of a place: its flags, and its width and precision if they are set. -/
structure Place where
  /-- The flags. -/
  flags : Flags
  /-- The least number of characters. -/
  width : Nat := 0
  /-- The number of digits or characters that matter. -/
  precision : Option Nat := none
  deriving Repr, DecidableEq

/-- Reads a width. A negative one stands for alignment to the left. -/
def readWidth (p : Place) (a : Arguments) (s : List Char) :
    Except TemplateFault (Place × Arguments × List Char) :=
  match s with
  | '*' :: rest =>
    match nextInteger a with
    | .error f => .error f
    | .ok (n, b) =>
      if maxWidth < n || n < -maxWidth - 1 then .error .widthArgument
      else
        .ok ({ p with width := n.natAbs
                      flags := { p.flags with left := p.flags.left || n < 0 } }, b, rest)
  | _ =>
    match numeral? s with
    | some (n, rest) =>
      if maxWidth < n then .error .widthTooLarge else .ok ({ p with width := n }, a, rest)
    | none => .ok (p, a, s)

/-- Reads a precision. A negative one stands for zero, and so does a missing one after a point. -/
def readPrecision (p : Place) (a : Arguments) (s : List Char) :
    Except TemplateFault (Place × Arguments × List Char) :=
  match s with
  | '.' :: '*' :: rest =>
    match nextInteger a with
    | .error f => .error f
    | .ok (n, b) =>
      if maxPrecision < n || n < -maxPrecision - 1 then .error .precisionArgument
      else .ok ({ p with precision := some n.toNat }, b, rest)
  | '.' :: rest =>
    match numeral? rest with
    | some (n, after) =>
      if maxPrecision < n then .error .precisionTooLarge
      else .ok ({ p with precision := some n }, a, after)
    | none => .ok ({ p with precision := some 0 }, a, rest)
  | _ => .ok (p, a, s)

/-- Drops a letter that means nothing. -/
def dropLength (s : List Char) : List Char :=
  match s with
  | c :: rest => if c = 'h' || c = 'l' || c = 'L' then rest else s
  | [] => []

/-! ### Converting an argument -/

/-- Hexadecimal letters in upper case, and the letter of the mark before them. -/
def upper (s : List Char) : List Char :=
  s.map Char.toUpper

/-- A natural number in a base, with enough zeros in front for a given number of digits. -/
def digitsIn (base digits n : Nat) : List Char :=
  let text := Nat.toDigits base n
  List.replicate (digits - text.length) '0' ++ text

/-- The mark of the base of a conversion. -/
def baseMark (conversion : Char) : List Char :=
  if conversion = 'o' || conversion = 'x' || conversion = 'X' then ['0', conversion] else []

/-- The base of a conversion. -/
def baseOf (conversion : Char) : Nat :=
  if conversion = 'o' then 8 else if conversion = 'x' || conversion = 'X' then 16 else 10

/-- The integer that a conversion to an integer makes of a value. Only a decimal one takes numbers
that are not integers. -/
def integerFor (conversion : Char) (v : Value) : Except TemplateFault Int :=
  match v with
  | .int n => .ok n
  | .bool b => .ok (if b then 1 else 0)
  | .float x =>
    if baseOf conversion = 10 then (wholePart x).mapError .number
    else .error (.notInteger conversion v.kindName)
  | _ =>
    .error (if baseOf conversion = 10 then .notNumber conversion v.kindName
      else .notInteger conversion v.kindName)

/-- The number that a conversion to a floating point number makes of a value. -/
def realFor (v : Value) : Except TemplateFault Binary64 :=
  let ofInt (n : Int) : Except TemplateFault Binary64 :=
    match Binary64.ofInt? n with
    | some x => .ok x
    | none => .error (.number .floatOverflow)
  match v with
  | .float x => .ok x
  | .int n => ofInt n
  | .bool b => ofInt (if b then 1 else 0)
  | _ => .error (.notReal v.kindName)

/-- The character that a conversion to a character makes of a value. -/
def characterFor (v : Value) : Except TemplateFault Char :=
  let ofInt (n : Int) : Except TemplateFault Char :=
    if 0 ≤ n && n ≤ lastCodePoint then .ok (CodePoint.ofNat n.toNat).shown else .error .noCharacter
  match v with
  | .string s =>
    match s.toList with
    | [c] => .ok c
    | _ => .error .notCharacter
  | .int n => ofInt n
  | .bool b => ofInt (if b then 1 else 0)
  | _ => .error .notCharacter

/-- The style of a conversion to a floating point number. -/
def styleOf (conversion : Char) : NumeralStyle :=
  let c := conversion.toLower
  if c = 'e' then .scientific else if c = 'f' then .positional else .general

/-- The precision of floating point numbers unless another one is set. -/
def defaultPrecision : Nat := 6

/-- A text with escapes for all characters outside ASCII. -/
def escapeBeyondAscii (s : List Char) : List Char :=
  s.flatMap fun c =>
    if c.toNat < 0x80 then [c]
    else if c.toNat < 0x100 then '\\' :: 'x' :: hexText 2 c.toNat
    else if c.toNat < 0x10000 then '\\' :: 'u' :: hexText 4 c.toNat
    else '\\' :: 'U' :: hexText 8 c.toNat

/-- The text of an argument, before it is brought to its width: a sign, a mark of the base, and the
rest. -/
structure Converted where
  /-- The sign, if any. -/
  sign : List Char := []
  /-- The mark of the base, if any. -/
  mark : List Char := []
  /-- The rest. -/
  body : List Char
  /-- Whether zeros may fill up the width. -/
  numeric : Bool := false
  deriving Repr, DecidableEq

/-- The sign of a number at a place. -/
def signOf (flags : Flags) (negative : Bool) : List Char :=
  if negative then ['-'] else if flags.sign then ['+'] else if flags.blank then [' '] else []

/-- An integer at a place. -/
def convertInteger (p : Place) (conversion : Char) (n : Int) : Converted :=
  let digits := digitsIn (baseOf conversion) (p.precision.getD 0) n.natAbs
  { sign := signOf p.flags (n < 0)
    mark := if p.flags.alternate then baseMark conversion else []
    body := if conversion = 'X' then upper digits else digits
    numeric := true }

/-- A floating point number at a place. -/
def convertReal (p : Place) (conversion : Char) (x : Binary64) : Converted :=
  let written := x.written
    ⟨styleOf conversion, p.precision.getD defaultPrecision, p.flags.alternate⟩
  let (negative, body) := match written with
    | '-' :: rest => (true, rest)
    | _ => (false, written)
  { sign := signOf p.flags negative
    body := if conversion.isUpper then upper body else body
    numeric := true }

/-- A text at a place, of which the precision tells how much is shown. -/
def convertText (p : Place) (s : List Char) : Converted :=
  { body := match p.precision with
      | some n => s.take n
      | none => s }

/-- The greatest width and the greatest number of digits for which there is memory. -/
def memoryLimit : Nat := 1000000000

/-- The conversions to integers. -/
def integerConversions : List Char := "diuoxX".toList

/-- The conversions to floating point numbers. -/
def realConversions : List Char := "eEfFgG".toList

/-- The text of a number at a place, unless it has more digits than there is memory for. -/
def withDigits (p : Place) (text : Unit → Converted) : Except TemplateFault Converted :=
  if memoryLimit < p.precision.getD 0 then .error .tooLong else .ok (text ())

/-- The text of an argument at a place. -/
def convert (p : Place) (conversion : Char) (position : Nat) (v : Value) :
    Except TemplateFault Converted :=
  if conversion = 's' then .ok (convertText p v.shown.toList)
  else if conversion = 'r' then .ok (convertText p v.shownInside)
  else if conversion = 'a' then .ok (convertText p (escapeBeyondAscii v.shownInside))
  else if integerConversions.contains conversion then
    match integerFor conversion v with
    | .error f => .error f
    | .ok n => withDigits p fun () => convertInteger p conversion n
  else if realConversions.contains conversion then
    match realFor v with
    | .error f => .error f
    | .ok x => withDigits p fun () => convertReal p conversion x
  else if conversion = 'c' then (characterFor v).map fun c => { body := [c] }
  else .error (.unknownConversion conversion position)

/-- The text of an argument, brought to the width of its place. -/
def layOut (p : Place) (c : Converted) : List Char :=
  let missing := p.width - (c.sign.length + c.mark.length + c.body.length)
  if p.flags.left then c.sign ++ c.mark ++ c.body ++ List.replicate missing ' '
  else if p.flags.zero && c.numeric then
    c.sign ++ c.mark ++ List.replicate missing '0' ++ c.body
  else List.replicate missing ' ' ++ c.sign ++ c.mark ++ c.body

/-! ### Filling in -/

/-- What a place leaves behind: its text, the arguments after it and the template after it. -/
abbrev Filled := List Char × Arguments × List Char

/-- Fills in the place whose conversion a text begins with. The template has `total` characters. -/
def fillConversion (total : Nat) (p : Place) (a : Arguments) (s : List Char) :
    Except TemplateFault Filled :=
  match s with
  | [] => .error .openPlace
  | c :: rest =>
    match a.next with
    | .error f => .error f
    | .ok (v, b) =>
      match convert p c (total - s.length) v with
      | .error f => .error f
      | .ok converted =>
        if memoryLimit < p.width then .error .tooLong else .ok (layOut p converted, b, rest)

/-- Fills in the place that a text begins with, after its percent sign. -/
def fillPlace (total : Nat) (a : Arguments) (s : List Char) : Except TemplateFault Filled :=
  match readMember a s with
  | .error f => .error f
  | .ok (a, s) =>
    let (flags, s) := readFlags {} s
    match readWidth { flags := flags } a s with
    | .error f => .error f
    | .ok (p, a, s) =>
      match readPrecision p a s with
      | .error f => .error f
      | .ok (p, a, s) => fillConversion total p a (dropLength s)

/-- Whether a place of an object or a list has left its argument unused. -/
def leavesUnused (a : Arguments) : Bool :=
  a.mapping.isSome && !a.unused.isEmpty

/-- Fills in a template, given fuel for its characters; the whole one has `total` of them. -/
def fillWith (total : Nat) : Nat → Arguments → List Char → Except TemplateFault (List Char)
  | 0, _, _ => .ok []
  | _, a, [] => if a.mapping.isNone && !a.unused.isEmpty then .error .tooMany else .ok []
  | fuel + 1, a, '%' :: '%' :: rest => (fillWith total fuel a rest).map ('%' :: ·)
  | fuel + 1, a, '%' :: rest =>
    match fillPlace total a rest with
    | .error f => .error f
    | .ok (text, b, after) =>
      if leavesUnused b then .error .tooMany else (fillWith total fuel b after).map (text ++ ·)
  | fuel + 1, a, c :: rest => (fillWith total fuel a rest).map (c :: ·)

/-- A template with its arguments. -/
def fill (template : List Char) (a : Arguments) : Except TemplateFault (List Char) :=
  fillWith template.length (template.length + 1) a template

end LabelPress.Template
