import LabelPress.Qr.Codeword

/-!
# Error correction of a QR symbol

The codewords of a payload are divided into blocks, and every block gets codewords for the
correction of errors: the remainder of its polynomial divided by the one that has the first powers
of two as its roots, over the field of 256 elements. In the symbol the blocks are interleaved, first
their data and then their corrections.

## Main definitions

* `times`: the product in the field.
* `corrections`: the correction of a block.
* `finalCodewords`: all codewords of a symbol in their order.
-/

namespace LabelPress.Qr

/-! ### The field -/

/-- The polynomial by which the field is defined. -/
def fieldPolynomial : Nat := 0x11D

/-- An element of the field multiplied by two. -/
def double (a : Nat) : Nat :=
  let b := 2 * a
  if b < 0x100 then b else b ^^^ fieldPolynomial

/-- The product of two elements of the field. -/
def times (a b : Nat) : Nat :=
  (bitsOf 8 b).foldl (fun total bit => double total ^^^ (if bit then a else 0)) 0

/-- A power of two in the field. -/
def powerOfTwo : Nat → Nat
  | 0 => 1
  | n + 1 => double (powerOfTwo n)

/-! ### The correction of a block -/

/-- The polynomial with the first `count` powers of two as its roots: its coefficients but the
first, which is one, from the highest power down. -/
def generator : Nat → List Nat
  | 0 => []
  | count + 1 =>
    let g := generator count
    let root := powerOfTwo count
    List.zipWith (· ^^^ ·) (g ++ [0]) (root :: g.map (times root))

/-- One step of the division: a remainder with another coefficient of the dividend. -/
def divisionStep (g remainder : List Nat) (coefficient : Nat) : List Nat :=
  let factor := coefficient ^^^ remainder.headD 0
  List.zipWith (fun r c => r ^^^ times c factor) (remainder.drop 1 ++ [0]) g

/-- The correction of a block, `count` codewords. -/
def corrections (count : Nat) (block : List Nat) : List Nat :=
  block.foldl (divisionStep (generator count)) (List.replicate count 0)

/-! ### Blocks -/

/-- The number of blocks of versions 1 to 40 at a level. -/
def blockCounts : Level → List Nat
  | .low =>
    [1, 1, 1, 1, 1, 2, 2, 2, 2, 4, 4, 4, 4, 4, 6, 6, 6, 6, 7, 8, 8, 9, 9, 10, 12, 12, 12, 13, 14,
     15, 16, 17, 18, 19, 19, 20, 21, 22, 24, 25]
  | .medium =>
    [1, 1, 1, 2, 2, 4, 4, 4, 5, 5, 5, 8, 9, 9, 10, 10, 11, 13, 14, 16, 17, 17, 18, 20, 21, 23, 25,
     26, 28, 29, 31, 33, 35, 37, 38, 40, 43, 45, 47, 49]
  | .quartile =>
    [1, 1, 2, 2, 4, 4, 6, 6, 8, 8, 8, 10, 12, 16, 12, 17, 16, 18, 21, 20, 23, 23, 25, 27, 29, 34,
     34, 35, 38, 40, 43, 45, 48, 51, 53, 56, 59, 62, 65, 68]
  | .high =>
    [1, 1, 2, 4, 4, 4, 5, 6, 8, 8, 11, 11, 16, 16, 18, 16, 19, 21, 25, 25, 25, 34, 30, 32, 35, 37,
     40, 42, 45, 48, 51, 54, 57, 60, 63, 66, 70, 74, 77, 81]

/-- The number of blocks of a version at a level. -/
def blockCount (level : Level) (version : Nat) : Nat :=
  (blockCounts level).getD (version - 1) 1

/-- The number of lines of alignment patterns in each direction. -/
def alignmentCount (version : Nat) : Nat :=
  if version < 2 then 0 else version / 7 + 2

/-- The modules of a symbol that are left for codewords. -/
def freeModules (version : Nat) : Nat :=
  let lines := alignmentCount version
  let all := (16 * version + 128) * version + 64
  let aligned := if version < 2 then all else all - ((25 * lines - 10) * lines - 55)
  if version < 7 then aligned else aligned - 36

/-- The codewords of a symbol, corrections included. -/
def totalCodewords (version : Nat) : Nat :=
  freeModules version / 8

/-- The sizes of the blocks of data: the shorter ones first. -/
def blockSizes (level : Level) (version : Nat) : List Nat :=
  let count := blockCount level version
  let data := capacity level version
  List.replicate (count - data % count) (data / count)
    ++ List.replicate (data % count) (data / count + 1)

/-- The number of corrections in every block. -/
def correctionCount (level : Level) (version : Nat) : Nat :=
  (totalCodewords version - capacity level version) / blockCount level version

/-- Divides codewords into blocks of given sizes. -/
def intoBlocks : List Nat → List Nat → List (List Nat)
  | [], _ => []
  | size :: sizes, words => words.take size :: intoBlocks sizes (words.drop size)

/-- The codewords of blocks, one of each block in turn. -/
def interleave (blocks : List (List Nat)) : List Nat :=
  let longest := (blocks.map List.length).foldl max 0
  (List.range longest).flatMap fun i => blocks.filterMap (·[i]?)

/-- All codewords of a symbol in their order. -/
def finalCodewords (level : Level) (version : Nat) (payload : List UInt8) : List Nat :=
  let blocks := intoBlocks (blockSizes level version) (dataCodewords level version payload)
  interleave blocks ++ interleave (blocks.map (corrections (correctionCount level version)))

end LabelPress.Qr
