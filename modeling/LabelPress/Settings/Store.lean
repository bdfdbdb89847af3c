import LabelPress.Barcode.Generate
import LabelPress.Settings.Source

/-!
# The store of settings

Settings are loaded when they are first asked for and kept until the store is cleared; variables
that change in between do not matter. A load that fails is not kept. Every load has a number, so
that two answers can be recognised as the same.

The renderers of a generation are made from the settings.

## Main definitions

* `Store.get`: the settings, loaded if necessary.
* `Settings.context`: the renderers that settings describe.
-/

namespace LabelPress

/-- Settings with the number of the load that produced them. -/
structure Loaded where
  /-- The settings. -/
  settings : Settings
  /-- How many loads preceded. -/
  number : Nat
  deriving Repr, DecidableEq

/-- The sources of settings, and the settings loaded from them. -/
structure Store where
  /-- The variables of the environment. -/
  environment : Variables
  /-- The file of variables, if there is one. -/
  file : Option String
  /-- The settings that are kept. -/
  kept : Option Loaded
  /-- How many loads have succeeded. -/
  loads : Nat
  deriving Repr, DecidableEq

namespace Store

/-- A store from which nothing has been loaded. -/
def fresh (environment : Variables) (file : Option String) : Store :=
  ⟨environment, file, none, 0⟩

/-- The settings, loaded unless they are kept. -/
def get (s : Store) : Except SettingsFault Loaded × Store :=
  match s.kept with
  | some l => (.ok l, s)
  | none =>
    match Settings.load [] s.environment s.file with
    | .error e => (.error e, s)
    | .ok settings =>
      let l : Loaded := ⟨settings, s.loads⟩
      (.ok l, { s with kept := some l, loads := s.loads + 1 })

/-- Forgets the settings that are kept. -/
def clear (s : Store) : Store :=
  { s with kept := none }

/-- Removes a variable. -/
def unset (s : Store) (name : String) : Store :=
  { s with environment := s.environment.filter fun v => v.1 != name }

/-- Sets a variable: in its place if it is there, at the end otherwise. -/
def set (s : Store) (name value : String) : Store :=
  { s with environment := s.environment.put name value }

end Store

/-- The QR renderer that settings describe. -/
def Settings.qrRenderer (s : Settings) : Except Fault Qr.Renderer :=
  Qr.Renderer.make (.int s.qrSize) (.int s.qrMargin) (.string s.qrLevel.name)
    (.string s.qrForeground) (.string s.qrBackground)

/-- The renderers that settings describe. -/
def Settings.context (s : Settings) (encoderAvailable : Bool) : Except Fault Barcode.Context :=
  (s.qrRenderer).map fun qr => ⟨qr, encoderAvailable⟩

end LabelPress
