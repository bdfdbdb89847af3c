import LabelPress.Qr.Correction

/-!
# Modules of a QR symbol

A symbol is a square of modules. Some are the same in every symbol of a version: finder patterns in
three corners, alignment patterns between them, and lines of alternating modules. Some tell the
level, the mask and the version. All others hold the codewords of the payload, inverted where the
mask says so.

Eight masks are tried, and the one whose symbol has the least penalty is used. In a trial the
modules that tell level, mask and version are light.

## Main definitions

* `cellAt`: what the module in a row and a column is for.
* `modulesWith`: the modules of a symbol with a given mask.
* `penalty`: how unsuitable a square of modules is.
* `modules`: the modules of the symbol for a payload.
-/

namespace LabelPress.Qr

/-- What a module is for. -/
inductive Cell where
  /-- It belongs to a pattern, and is dark or light in every symbol. -/
  | pattern (dark : Bool)
  /-- It tells a bit of the level and the mask. -/
  | format (bit : Nat)
  /-- It tells a bit of the version. -/
  | version (bit : Nat)
  /-- It is dark but in trials. -/
  | marker
  /-- It holds a bit of a codeword. -/
  | data
  deriving Repr, DecidableEq

/-- The side of the symbol of a version, in modules. -/
def symbolSide (version : Nat) : Nat :=
  17 + 4 * version

/-! ### Patterns -/

/-- The distance of two numbers. -/
def distance (a b : Nat) : Nat :=
  max a b - min a b

/-- A pattern of nested squares around a centre: dark or light by the distance from it. -/
def squareAt (row column centreRow centreColumn : Nat) : Nat :=
  max (distance row centreRow) (distance column centreColumn)

/-- The module of a finder pattern with its light border, at a distance from its centre. -/
def finderModule? (d : Nat) : Option Bool :=
  if 4 < d then none else some (d ≠ 2 && d ≠ 4)

/-- The module of an alignment pattern, at a distance from its centre. -/
def alignmentModule? (d : Nat) : Option Bool :=
  if 2 < d then none else some (d ≠ 1)

/-- The centres of the finder patterns. -/
def finderCentres (version : Nat) : List (Nat × Nat) :=
  let last := symbolSide version - 4
  [(3, 3), (last, 3), (3, last)]

/-- The distance of two lines of alignment patterns. -/
def alignmentStep (version : Nat) : Nat :=
  let lines := alignmentCount version
  if version = 32 then 26 else (4 * version + 2 * lines + 1) / (2 * lines - 2) * 2

/-- The rows, and the columns, of the centres of alignment patterns. -/
def alignmentLines (version : Nat) : List Nat :=
  let lines := alignmentCount version
  if lines = 0 then []
  else
    6 :: (List.range (lines - 1)).map fun i =>
      symbolSide version - 7 - (lines - 2 - i) * alignmentStep version

/-- The centres of the alignment patterns; there are none where a finder pattern is. -/
def alignmentCentres (version : Nat) : List (Nat × Nat) :=
  let lines := alignmentLines version
  let last := symbolSide version - 7
  let all := lines.flatMap fun r => lines.map fun c => (r, c)
  all.filter (· ∉ [(6, 6), (6, last), (last, 6)])

/-- The module of a pattern, if one covers the given row and column. -/
def patternModule? (finders alignments : List (Nat × Nat)) (row column : Nat) : Option Bool :=
  let finder := finders.findSome? fun (r, c) => finderModule? (squareAt row column r c)
  let alignment := alignments.findSome? fun (r, c) => alignmentModule? (squareAt row column r c)
  let timing := if row = 6 then some (column % 2 = 0 : Bool)
    else if column = 6 then some (row % 2 = 0 : Bool) else none
  (finder.or alignment).or timing

/-- The bit of level and mask that a module tells, if it tells one. -/
def formatBit? (side row column : Nat) : Option Nat :=
  if column = 8 && row < 6 then some row
  else if column = 8 && (row = 7 || row = 8) then some (row - 1)
  else if column = 8 && side ≤ row + 7 then some (row + 15 - side)
  else if row = 8 && side ≤ column + 8 then some (side - 1 - column)
  else if row = 8 && column = 7 then some 8
  else if row = 8 && column < 6 then some (14 - column)
  else none

/-- The bit of the version that a module tells, if it tells one. -/
def versionBit? (side row column : Nat) : Option Nat :=
  if row < 6 && side ≤ column + 11 && column + 8 < side then some (3 * row + (column + 11 - side))
  else if column < 6 && side ≤ row + 11 && row + 8 < side then
    some (3 * column + (row + 11 - side))
  else none

/-- What the module in a row and a column is for, given the centres of the patterns. -/
def cellAt (version : Nat) (finders alignments : List (Nat × Nat)) (row column : Nat) : Cell :=
  let side := symbolSide version
  match patternModule? finders alignments row column with
  | some dark => .pattern dark
  | none =>
    if row + 8 = side && column = 8 then .marker
    else
      match formatBit? side row column with
      | some bit => .format bit
      | none =>
        match if 7 ≤ version then versionBit? side row column else none with
        | some bit => .version bit
        | none => .data

/-! ### Squares -/

/-- A square of values, row by row. -/
abbrev Square (α : Type) := Array (Array α)

/-- The square of a given side with given values. -/
def Square.ofFn (side : Nat) (f : Nat → Nat → α) : Square α :=
  Array.ofFn fun row : Fin side => Array.ofFn fun column : Fin side => f row column

/-- The value in a row and a column, with a default beyond the square. -/
def Square.get (s : Square α) (row column : Nat) (fallback : α) : α :=
  (s.getD row #[]).getD column fallback

/-- The purposes of the modules of a version. -/
def cells (version : Nat) : Square Cell :=
  let finders := finderCentres version
  let alignments := alignmentCentres version
  Square.ofFn (symbolSide version) (cellAt version finders alignments)

/-! ### The payload -/

/-- The right columns of the pairs of columns in which codewords are laid out, from the right. The
line of alternating modules is left out. -/
def columnPairs (side : Nat) : List Nat :=
  (List.range (side / 2)).map fun i =>
    let column := side - 1 - 2 * i
    if column ≤ 6 then column - 1 else column

/-- The rows and columns of all modules in the order in which bits are laid out: pairs of columns
upwards and downwards in turn. -/
def path (side : Nat) : List (Nat × Nat) :=
  (columnPairs side).zipIdx.flatMap fun (column, i) =>
    let rows := if i % 2 = 0 then (List.range side).reverse else List.range side
    rows.flatMap fun row => [(row, column), (row, column - 1)]

/-- Lays bits out along a path, over the modules for data only. -/
def layBits (purposes : Square Cell) : Square Bool → List Bool → List (Nat × Nat) → Square Bool
  | s, _, [] => s
  | s, bits, (row, column) :: rest =>
    if purposes.get row column .marker = .data then
      match bits with
      | b :: more => layBits purposes (s.modify row fun r => r.setIfInBounds column b) more rest
      | [] => s
    else layBits purposes s bits rest

/-- The bits of a payload in their places, before a mask is laid over them. -/
def plainData (level : Level) (version : Nat) (payload : List UInt8) (purposes : Square Cell) :
    Square Bool :=
  let side := symbolSide version
  let bits := (finalCodewords level version payload).flatMap (bitsOf 8)
  layBits purposes (Square.ofFn side fun _ _ => false) bits (path side)

/-! ### Masks -/

/-- Whether a mask inverts the module in a row and a column. -/
def inverts (mask row column : Nat) : Bool :=
  match mask with
  | 0 => (row + column) % 2 = 0
  | 1 => row % 2 = 0
  | 2 => column % 3 = 0
  | 3 => (row + column) % 3 = 0
  | 4 => (row / 2 + column / 3) % 2 = 0
  | 5 => row * column % 2 + row * column % 3 = 0
  | 6 => (row * column % 2 + row * column % 3) % 2 = 0
  | _ => (row * column % 3 + (row + column) % 2) % 2 = 0

/-- The remainder of a binary polynomial of `count` more coefficients than the divisor, whose degree
is `degree`. -/
def binaryRemainder (divisor degree : Nat) : Nat → Nat → Nat
  | 0, n => n
  | count + 1, n =>
    binaryRemainder divisor degree count
      (if n.testBit (degree + count) then n ^^^ (divisor <<< count) else n)

/-- The number for a level in the symbol. -/
def Level.mark : Level → Nat
  | .low => 1
  | .medium => 0
  | .quartile => 3
  | .high => 2

/-- The fifteen bits that tell level and mask, the last ten of them for correction. -/
def formatBits (level : Level) (mask : Nat) : Nat :=
  let shifted := (level.mark * 8 + mask) <<< 10
  (shifted + binaryRemainder 0x537 10 5 shifted) ^^^ 0x5412

/-- The eighteen bits that tell the version, the last twelve of them for correction. -/
def versionBits (version : Nat) : Nat :=
  let shifted := version <<< 12
  shifted + binaryRemainder 0x1F25 12 6 shifted

/-- The modules of a symbol with a mask, in a trial or for good. -/
def modulesWith (level : Level) (version : Nat) (purposes : Square Cell) (plain : Square Bool)
    (trial : Bool) (mask : Nat) : Square Bool :=
  Square.ofFn (symbolSide version) fun row column =>
    match purposes.get row column .marker with
    | .pattern dark => dark
    | .format bit => !trial && (formatBits level mask).testBit bit
    | .version bit => !trial && (versionBits version).testBit bit
    | .marker => !trial
    | .data => plain.get row column false != inverts mask row column

/-! ### Penalties -/

/-- The sum of numbers. -/
def total : List Nat → Nat
  | [] => 0
  | n :: rest => n + total rest

/-- The penalty of a line for runs of equal modules: the length less two for every run of at least
five. -/
def runPenalty (line : List Bool) : Nat :=
  total <| (line.splitBy (· == ·)).map fun run =>
    if 5 ≤ run.length then run.length - 2 else 0

/-- The penalty of two neighbouring rows, given as one row of pairs, for squares of two by two equal
modules: three for each. -/
def squarePenalty : List (Bool × Bool) → Nat
  | (a, b) :: (c, d) :: rest =>
    (if a = b ∧ a = c ∧ a = d then 3 else 0) + squarePenalty ((c, d) :: rest)
  | _ => 0

/-- The module patterns that look like a finder pattern with light modules on one side. -/
def finderLikes : List (List Bool) :=
  let core := [true, false, true, true, true, false, true]
  let gap := List.replicate 4 false
  [core ++ gap, gap ++ core]

/-- The penalty of a line for what looks like a finder pattern: forty for each place. -/
def finderPenalty : List Bool → Nat
  | [] => 0
  | m :: line =>
    (if finderLikes.any (·.isPrefixOf (m :: line)) then 40 else 0) + finderPenalty line

/-- The penalty for the share of dark modules: ten for every twentieth that it is away from a
half. -/
def balancePenalty (dark all : Nat) : Nat :=
  distance (100 * dark) (50 * all) / (5 * all) * 10

/-- How unsuitable a square of modules is. -/
def penalty (s : Square Bool) : Nat :=
  let rows := s.toList.map Array.toList
  let columns := (List.range s.size).map fun i => s.toList.map fun row => row.getD i false
  let pairs := List.zipWith (fun a b => squarePenalty (List.zip a b)) rows (rows.drop 1)
  let dark := total (rows.map fun row => row.countP id)
  total ((rows ++ columns).map fun line => runPenalty line + finderPenalty line) + total pairs
    + balancePenalty dark (s.size * s.size)

/-- The first of several numbers with the least value. -/
def leastBy (value : Nat → Nat) : List Nat → Nat → Nat
  | [], best => best
  | n :: ns, best => leastBy value ns (if value n < value best then n else best)

/-- The modules of the symbol for a payload. -/
def modules (level : Level) (version : Nat) (payload : List UInt8) : Square Bool :=
  let purposes := cells version
  let plain := plainData level version payload purposes
  let penalties := (Array.range 8).map fun mask =>
    penalty (modulesWith level version purposes plain true mask)
  let mask := leastBy (penalties.getD · 0) (List.range 8) 0
  modulesWith level version purposes plain false mask

end LabelPress.Qr
