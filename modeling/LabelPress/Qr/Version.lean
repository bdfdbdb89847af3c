import LabelPress.Qr.Segment
import LabelPress.Text.UpperCase

/-!
# Versions of QR symbols

A symbol has one of forty sizes, its versions, and one of four levels of error correction. The
version chosen for a payload is the smallest that holds its segments. The width of the length
fields depends on the version itself, so the search starts with the fields of small versions and
is repeated from the version found when that belongs to another size class.

## Main definitions

* `capacity`: how many bytes a version holds at a level.
* `versionFor?`: the version for a payload.
-/

namespace LabelPress.Qr

open LabelPress.Text

/-- A level of error correction. -/
inductive Level where
  | low
  | medium
  | quartile
  | high
  deriving Repr, DecidableEq

namespace Level

/-- The levels in ascending order. -/
def all : List Level := [low, medium, quartile, high]

/-- The letter for a level. -/
def name : Level → String
  | low => "L"
  | medium => "M"
  | quartile => "Q"
  | high => "H"

/-- The level of exactly this letter. -/
def ofName? (s : List Char) : Option Level :=
  all.find? fun l => l.name.toList == s

/-- The level that a text names, in either case. -/
def parse? (s : String) : Option Level :=
  ofName? (upperCase s.toList)

end Level

/-- The bytes that versions 1 to 40 hold at a level. -/
def capacities : Level → List Nat
  | .low =>
    [19, 34, 55, 80, 108, 136, 156, 194, 232, 274, 324, 370, 428, 461, 523, 589, 647, 721, 795,
     861, 932, 1006, 1094, 1174, 1276, 1370, 1468, 1531, 1631, 1735, 1843, 1955, 2071, 2191, 2306,
     2434, 2566, 2702, 2812, 2956]
  | .medium =>
    [16, 28, 44, 64, 86, 108, 124, 154, 182, 216, 254, 290, 334, 365, 415, 453, 507, 563, 627,
     669, 714, 782, 860, 914, 1000, 1062, 1128, 1193, 1267, 1373, 1455, 1541, 1631, 1725, 1812,
     1914, 1992, 2102, 2216, 2334]
  | .quartile =>
    [13, 22, 34, 48, 62, 76, 88, 110, 132, 154, 180, 206, 244, 261, 295, 325, 367, 397, 445,
     485, 512, 568, 614, 664, 718, 754, 808, 871, 911, 985, 1033, 1115, 1171, 1231, 1286, 1354,
     1426, 1502, 1582, 1666]
  | .high =>
    [9, 16, 26, 36, 46, 60, 66, 86, 100, 122, 140, 158, 180, 197, 223, 253, 283, 313, 341, 385,
     406, 442, 464, 514, 538, 596, 628, 661, 701, 745, 793, 845, 901, 961, 986, 1054, 1096, 1142,
     1222, 1276]

/-- The greatest version. -/
def maxVersion : Nat := 40

/-- The bytes that a version holds at a level, and none for a number that is no version. -/
def capacity (level : Level) (version : Nat) : Nat :=
  if version = 0 then 0 else (capacities level).getD (version - 1) 0

/-- The smallest version not below `start` that holds the given number of bits. -/
def smallestFrom? (level : Level) (bits start : Nat) : Option Nat :=
  ((List.range (maxVersion + 1)).drop start).find? fun v => bits ≤ 8 * capacity level v

/-- Searches from `start` with the length fields of its size class, and again from the version found
if that has other length fields. There are three size classes, so three rounds are enough. -/
def searchVersion? (level : Level) (parts : List Segment) : Nat → Nat → Option Nat
  | 0, _ => none
  | rounds + 1, start =>
    match smallestFrom? level (totalBits (sizeClass start) parts) start with
    | none => none
    | some v =>
      if sizeClass v = sizeClass start then some v else searchVersion? level parts rounds v

/-- The version of the symbol for a payload, if any version holds it. -/
def versionFor? (level : Level) (payload : List UInt8) : Option Nat :=
  searchVersion? level (segments payload) 3 1

end LabelPress.Qr
