import LabelPress.Qr.Version

/-!
# Codewords of a QR symbol

The segments of a payload are written one after the other, each with its alphabet, its length and
its characters. The bits are closed by up to four zeros, brought to whole codewords of eight bits
and filled up with two codewords in turn until the version is full.

## Main definitions

* `Segment.stream`: the bits of a segment.
* `dataCodewords`: the codewords of a payload.

## Main results

* `Segment.length_stream`: a segment takes as many bits as its size says.
-/

namespace LabelPress.Qr

/-- The last `width` binary digits of `n`, most significant first. -/
def bitsOf : Nat → Nat → List Bool
  | 0, _ => []
  | width + 1, n => n.testBit width :: bitsOf width n

@[simp]
theorem length_bitsOf (width n : Nat) : (bitsOf width n).length = width := by
  induction width with
  | zero => rfl
  | succ w ih => simp [bitsOf, ih]

/-- The number that marks an alphabet. -/
def Mode.mark : Mode → Nat
  | .numeric => 1
  | .alphanumeric => 2
  | .byte => 4

/-- The value of a byte of the alphanumeric alphabet: digits, letters and marks in this order. -/
def alphanumericValue (b : UInt8) : Nat :=
  let n := b.toNat
  if isDigit b then n - 0x30
  else if 0x41 ≤ n && n ≤ 0x5A then n - 0x37
  else 36 + alphanumericMarks.idxOf b

/-- The value of a digit. -/
def digitOf (b : UInt8) : Nat :=
  b.toNat - 0x30

/-- The bits of digits: ten for three of them, and seven or four for the rest. -/
def numericBits : List UInt8 → List Bool
  | a :: b :: c :: rest =>
    bitsOf 10 (100 * digitOf a + 10 * digitOf b + digitOf c) ++ numericBits rest
  | [a, b] => bitsOf 7 (10 * digitOf a + digitOf b)
  | [a] => bitsOf 4 (digitOf a)
  | [] => []

/-- The bits of alphanumeric characters: eleven for two of them, and six for the rest. -/
def alphanumericBits : List UInt8 → List Bool
  | a :: b :: rest =>
    bitsOf 11 (45 * alphanumericValue a + alphanumericValue b) ++ alphanumericBits rest
  | [a] => bitsOf 6 (alphanumericValue a)
  | [] => []

/-- The bits of bytes: eight for each. -/
def byteBits : List UInt8 → List Bool
  | b :: rest => bitsOf 8 b.toNat ++ byteBits rest
  | [] => []

namespace Segment

/-- The bits of the characters of a segment. -/
def content (s : Segment) : List Bool :=
  match s.mode with
  | .numeric => numericBits s.bytes
  | .alphanumeric => alphanumericBits s.bytes
  | .byte => byteBits s.bytes

/-- The bits of a segment. -/
def stream (c : SizeClass) (s : Segment) : List Bool :=
  bitsOf 4 s.mode.mark ++ bitsOf (lengthBits c s.mode) s.bytes.length ++ s.content

end Segment

/-! ### The size of a segment -/

theorem length_numericBits (bytes : List UInt8) :
    (numericBits bytes).length = dataBits .numeric bytes.length := by
  induction bytes using numericBits.induct with
  | case1 a b c rest ih =>
    simp only [numericBits, dataBits, List.length_append, length_bitsOf, List.length_cons] at ih ⊢
    have hd : (rest.length + 1 + 1 + 1) / 3 = rest.length / 3 + 1 := by omega
    have hm : (rest.length + 1 + 1 + 1) % 3 = rest.length % 3 := by omega
    simp only [hd, hm, ih]
    omega
  | case2 a b => simp [numericBits, dataBits]
  | case3 a => simp [numericBits, dataBits]
  | case4 => simp [numericBits, dataBits]

theorem length_alphanumericBits (bytes : List UInt8) :
    (alphanumericBits bytes).length = dataBits .alphanumeric bytes.length := by
  induction bytes using alphanumericBits.induct with
  | case1 a b rest ih =>
    simp only [alphanumericBits, dataBits, List.length_append, length_bitsOf, List.length_cons,
      ih]
    omega
  | case2 a => simp [alphanumericBits, dataBits]
  | case3 => simp [alphanumericBits, dataBits]

theorem length_byteBits (bytes : List UInt8) :
    (byteBits bytes).length = dataBits .byte bytes.length := by
  induction bytes with
  | nil => simp [byteBits, dataBits]
  | cons b bs ih =>
    simp only [byteBits, dataBits, List.length_append, length_bitsOf, List.length_cons] at ih ⊢
    omega

/-- A segment takes as many bits as its size says. -/
theorem Segment.length_stream (c : SizeClass) (s : Segment) : (s.stream c).length = s.bits c := by
  obtain ⟨mode, bytes⟩ := s
  cases mode <;>
    simp [Segment.stream, Segment.content, Segment.bits, length_numericBits,
      length_alphanumericBits, length_byteBits, Nat.add_assoc]

/-! ### Codewords -/

/-- The number that bits denote, most significant first. -/
def bitsNumber (bits : List Bool) : Nat :=
  bits.foldl (fun total b => 2 * total + b.toNat) 0

/-- The codewords of bits; the last one is filled up with zeros. -/
def codewords : Nat → List Bool → List Nat
  | 0, _ => []
  | count + 1, bits =>
    let chunk := bits.take 8
    bitsNumber (chunk ++ List.replicate (8 - chunk.length) false) :: codewords count (bits.drop 8)

/-- Two codewords in turn, `count` of them. -/
def fillers (count : Nat) : List Nat :=
  (List.range count).map fun i => if i % 2 = 0 then 0xEC else 0x11

/-- The codewords of a payload in a symbol of some version and level. -/
def dataCodewords (level : Level) (version : Nat) (payload : List UInt8) : List Nat :=
  let limit := 8 * capacity level version
  let bits := (segments payload).flatMap (Segment.stream (sizeClass version))
  let closed := bits ++ List.replicate (min (limit - bits.length) 4) false
  let used := (closed.length + 7) / 8
  codewords used closed ++ fillers (capacity level version - used)

end LabelPress.Qr
