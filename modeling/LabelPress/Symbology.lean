import LabelPress.Text.Blank
import LabelPress.Text.UpperCase

/-!
# Symbologies

The barcode symbologies that can be generated, their names, and the reading of a name that a caller
wrote: blanks around it are dropped, and it is compared in upper case.
-/

namespace LabelPress

open LabelPress.Text

/-- A barcode symbology. -/
inductive Symbology where
  | code128
  | code39
  | dataMatrix
  | qr
  | ean13
  | upcA
  | ean8
  | code93
  | itf14
  | pdf417
  deriving Repr, DecidableEq

namespace Symbology

/-- Every symbology, in the order in which they are listed to callers. -/
def all : List Symbology :=
  [code128, code39, dataMatrix, qr, ean13, upcA, ean8, code93, itf14, pdf417]

theorem mem_all (s : Symbology) : s ∈ all := by
  cases s <;> decide

/-- The name of a symbology. -/
def name : Symbology → String
  | code128 => "CODE128"
  | code39 => "CODE39"
  | dataMatrix => "DATAMATRIX"
  | qr => "QR"
  | ean13 => "EAN13"
  | upcA => "UPCA"
  | ean8 => "EAN8"
  | code93 => "CODE93"
  | itf14 => "ITF14"
  | pdf417 => "PDF417"

/-- The symbology of exactly this name. -/
def ofName? (s : List Char) : Option Symbology :=
  all.find? fun y => y.name.toList == s

/-- The symbology that a caller's text names, in any case and with blanks around it. -/
def parse? (s : String) : Option Symbology :=
  ofName? (upperCase (strip s.toList))

/-- The name of a symbology is read as that symbology. -/
@[simp] theorem parse?_name (s : Symbology) : parse? s.name = some s := by
  cases s <;> decide

/-- Whether the symbology is a row of bars whose height is free. -/
def isLinear : Symbology → Bool
  | code128 | code39 | ean13 | upcA | ean8 | code93 | itf14 => true
  | dataMatrix | qr | pdf417 => false

/-- The identifier under which the raster engine knows a symbology. QR is not drawn by it. -/
def rendererId? : Symbology → Option String
  | code128 => some "code128"
  | code39 => some "code39"
  | dataMatrix => some "datamatrix"
  | qr => none
  | ean13 => some "ean13"
  | upcA => some "upca"
  | ean8 => some "ean8"
  | code93 => some "code93"
  | itf14 => some "itf14"
  | pdf417 => some "pdf417"

end Symbology

end LabelPress
