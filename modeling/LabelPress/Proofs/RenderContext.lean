import LabelPress.Proofs.ColourText
import LabelPress.Proofs.Rendering
import LabelPress.Proofs.Settings

/-!
# The renderers of a service

The renderers of a service are made from its settings, and nothing that can be set keeps them from
being made. The check of the settings and the checks of the renderer are written independently. They
agree because each demand of the renderer is weaker than one that the settings have met already: a
side of at least 21 pixels is positive, a margin from zero to sixteen is not negative, the word for
a level is the name of one, and six hexadecimal digits are a colour. It is the form of colours where
this could fail most easily. The settings allow one number sign and the reader of colours any
number, and the reader accepts texts beyond hexadecimal digits; but both take the digits alike.

So if there are no renderers, there are no settings. Of that there are three causes, and only the
last is a list of invalid fields: the text of the list of origins cannot be read, or it is nested
too deeply to be read, or the fields that were read break the rules.

## Scope

Settings are kept between loads, and the variables of the environment may change meanwhile. What is
proved holds after any number of such changes, for the settings that are found then, which need not
be those of the variables that are set then.

## Main definitions

* `Renderer.Furnished` — a renderer has the values of settings, and colours that are bytes
* `Store.Operation`, `Store.run` — what can be done with a store, and a sequence of it
* `Store.Sound` — the settings that are kept are valid
* `LoadFault` — the causes for which there are no settings

## Main results

* `Settings.exists_hexColour_of_isColour` — a colour of the settings is six hexadecimal digits
* `Settings.exists_context` — valid settings describe renderers
* `Settings.loadFault_of_load` — the causes for which a load fails
* `Store.context_of_run` — what is found in a store, after anything was done with it
-/

namespace LabelPress

open LabelPress.Json LabelPress.Text LabelPress.Image LabelPress.Qr LabelPress.Validation
  LabelPress.Barcode

/-! ### Colours of the settings -/

namespace Image

theorem Colour.inRange_ofRgb (rgb : Rgb) : (Colour.ofRgb rgb).inRange := by
  have hbyte : ∀ x : UInt8, 0 ≤ (x.toNat : Int) ∧ (x.toNat : Int) ≤ 255 := by
    intro x
    have := x.toNat_lt
    omega
  exact ⟨hbyte _, hbyte _, hbyte _⟩

theorem exists_hexPair? {a b : Char} (ha : (hexValue? a).isSome = true)
    (hb : (hexValue? b).isSome = true) : ∃ k : UInt8, hexPair? a b = some k.toNat := by
  obtain ⟨high, hhigh⟩ := Option.isSome_iff_exists.mp ha
  obtain ⟨low, hlow⟩ := Option.isSome_iff_exists.mp hb
  have hpart : PartText a b (16 * high + low : Nat) :=
    .digits ((hexDigit_spec ha).1.trans hhigh) ((hexDigit_spec hb).1.trans hlow)
  obtain ⟨k, hk, -⟩ :=
    (partText_iff_hexPair (not_isLoose_of_hexValue? ha) (not_isLoose_of_hexValue? hb)).mp hpart
  exact ⟨k, hk⟩

end Image

namespace Settings

theorem exists_marks_of_isColour {cs : List Char} (h : isColour cs = true) :
    ∃ marks body, cs = List.replicate marks '#' ++ body ∧ body.length = 6 ∧
      ∀ c ∈ body, (hexValue? c).isSome = true := by
  unfold isColour at h
  dsimp only at h
  split at h
  next rest =>
    simp only [Bool.and_eq_true, beq_iff_eq, List.all_eq_true] at h
    exact ⟨1, rest, rfl, h.1, h.2⟩
  next =>
    simp only [Bool.and_eq_true, beq_iff_eq, List.all_eq_true] at h
    exact ⟨0, cs, rfl, h.1, h.2⟩

/-- **A colour of the settings is six hexadecimal digits.** -/
theorem exists_hexColour_of_isColour {s : String} (h : isColour s.toList = true) :
    ∃ rgb, HexColour s rgb := by
  obtain ⟨marks, body, hs, hlength, hdigits⟩ := exists_marks_of_isColour h
  match body, hlength with
  | [r, r', g, g', b, b'], _ =>
    simp only [List.forall_mem_cons] at hdigits
    obtain ⟨hr, hr', hg, hg', hb, hb', -⟩ := hdigits
    obtain ⟨red, hred⟩ := exists_hexPair? hr hr'
    obtain ⟨green, hgreen⟩ := exists_hexPair? hg hg'
    obtain ⟨blue, hblue⟩ := exists_hexPair? hb hb'
    exact ⟨⟨red, green, blue⟩, marks, r, r', g, g', b, b', hs, hred, hgreen, hblue⟩

end Settings

/-! ### The QR renderer -/

namespace Qr.Renderer

theorem readLevel_name (l : Level) : readLevel (.string l.name) = .ok l := by
  cases l <;> decide

theorem checkSize_int {n : Int} (h : 0 < n) : checkSize (.int n) = .ok () := by
  rw [checkSize, Value.isAtMost_int, decide_eq_false (Int.not_le.mpr h)]

theorem checkMargin_int {n : Int} (h : 0 ≤ n) : checkMargin (.int n) = .ok () := by
  rw [checkMargin, Value.isBelow_int, decide_eq_false (Int.not_lt.mpr h)]

/-- A renderer has the values of settings. -/
structure Furnished (s : Settings) (qr : Renderer) : Prop where
  /-- The size is that of the settings. -/
  size : qr.size = .int s.qrSize
  /-- The margin is that of the settings. -/
  margin : qr.margin = .int s.qrMargin
  /-- The level of error correction is that of the settings. -/
  level : qr.level = s.qrLevel
  /-- The colour of dark modules is the one that the digits in the settings denote. -/
  foreground : ∃ rgb, HexColour s.qrForeground rgb ∧ qr.foreground = Colour.ofRgb rgb
  /-- The colour of light modules is the one that the digits in the settings denote. -/
  background : ∃ rgb, HexColour s.qrBackground rgb ∧ qr.background = Colour.ofRgb rgb
  /-- Both colours consist of bytes. -/
  bytes : qr.foreground.inRange ∧ qr.background.inRange

end Qr.Renderer

namespace Settings

variable {s : Settings}

/-- **Valid settings describe a renderer** that has their values. -/
theorem exists_qrRenderer (h : s.Valid) : ∃ qr, s.qrRenderer = .ok qr ∧ qr.Furnished s := by
  obtain ⟨fg, hfg⟩ := exists_hexColour_of_isColour h.qrForeground
  obtain ⟨bg, hbg⟩ := exists_hexColour_of_isColour h.qrBackground
  have hsize : 0 < s.qrSize := Int.lt_of_lt_of_le (by decide) h.qrSize.1
  refine ⟨⟨.int s.qrSize, .int s.qrMargin, s.qrLevel, .ofRgb fg, .ofRgb bg⟩, ?_, ?_⟩
  · simp only [qrRenderer, Renderer.make, Renderer.readLevel_name, Renderer.checkSize_int hsize,
      Renderer.checkMargin_int h.qrMargin.1, ofValue_of_hexColour hfg, ofValue_of_hexColour hbg]
    rfl
  · exact
      { size := rfl
        margin := rfl
        level := rfl
        foreground := ⟨fg, hfg, rfl⟩
        background := ⟨bg, hbg, rfl⟩
        bytes := ⟨Colour.inRange_ofRgb fg, Colour.inRange_ofRgb bg⟩ }

/-- **Valid settings describe renderers,** whether or not there is a Data Matrix encoder. -/
theorem exists_context (h : s.Valid) (available : Bool) :
    ∃ c, s.context available = .ok c ∧ c.qr.Furnished s ∧ c.encoderAvailable = available := by
  obtain ⟨qr, hqr, hfurnished⟩ := exists_qrRenderer h
  exact ⟨⟨qr, available⟩, by rw [context, hqr]; rfl, hfurnished, rfl⟩

end Settings

/-! ### Loads that fail -/

/-- The variables of a source. -/
def Source.variables (environment : Variables) (file : Option String) :
    Source → List (String × Option String)
  | .environment => environment.map fun v => (v.1, some v.2)
  | .file => Dotenv.definitions environment (file.getD "")

/-- The text that a source gives to the list of origins, and why it cannot be read. -/
def Source.OriginsUnread (environment : Variables) (file : Option String) (source : Source)
    (e : ReadError) : Prop :=
  ∃ text, lookUp (source.variables environment file) Settings.originsField = some text ∧
    readWithin settingDepth text.toList = .error e

/-- The causes for which sources give no settings. -/
inductive LoadFault (environment : Variables) (file : Option String) : SettingsFault → Prop where
  /-- The list of origins cannot be read, and not for its depth. -/
  | unreadable {source : Source} {e : ReadError} (hread : source.OriginsUnread environment file e)
    (hform : ∀ c, e ≠ .tooDeep c) : LoadFault environment file (.unreadable source)
  /-- The list of origins is nested too deeply. -/
  | tooDeep {source : Source} {c : Container}
    (hread : source.OriginsUnread environment file (.tooDeep c)) :
    LoadFault environment file (.tooDeep c)
  /-- The fields that were read break the rules. -/
  | invalid {members : Members} {es : List FieldError}
    (hcheck : Settings.ofMembers members = .error es) : LoadFault environment file (.invalid es)

variable {environment : Variables} {file : Option String} {source : Source} {e : SettingsFault}

/-- Only the text of the list of origins can be wrong by itself. -/
theorem Source.loadFault_of_valueOf {field text : String}
    (htext : lookUp (source.variables environment file) field = some text)
    (h : source.valueOf field text = .error e) : LoadFault environment file e := by
  rw [valueOf] at h
  split at h
  next hfield =>
    subst hfield
    cases hread : readWithin settingDepth text.toList with
    | ok v =>
      rw [hread] at h
      cases v <;> cases h
    | error fault =>
      rw [hread] at h
      cases fault with
      | tooDeep c =>
        obtain rfl := Except.error.inj h
        exact .tooDeep ⟨text, htext, hread⟩
      | malformed position =>
        obtain rfl := Except.error.inj h
        exact .unreadable ⟨text, htext, hread⟩ (fun c hc => by cases hc)
      | tooManyDigits =>
        obtain rfl := Except.error.inj h
        exact .unreadable ⟨text, htext, hread⟩ (fun c hc => by cases hc)
  next => cases h

/-- A source fails over the first field whose text is wrong. The induction is on the fields that are
still to be read. -/
theorem Source.loadFault_of_membersOf {fields : List String}
    (h : source.membersOf (source.variables environment file) fields = .error e) :
    LoadFault environment file e := by
  induction fields with
  | nil => cases h
  | cons field rest ih =>
    cases htext : lookUp (source.variables environment file) field with
    | none =>
      rw [membersOf, htext] at h
      exact ih h
    | some text =>
      rw [membersOf, htext, Option.map_some] at h
      cases hvalue : source.valueOf field text with
      | error fault =>
        rw [hvalue] at h
        obtain rfl := Except.error.inj h
        exact loadFault_of_valueOf htext hvalue
      | ok given =>
        rw [hvalue] at h
        cases given with
        | none => exact ih h
        | some v =>
          cases hrest : source.membersOf (source.variables environment file) rest with
          | error fault =>
            rw [hrest] at h
            obtain rfl := Except.error.inj h
            exact ih hrest
          | ok members =>
            rw [hrest] at h
            cases h

/-- **A load fails** over the list of origins or because of invalid fields. -/
theorem Settings.loadFault_of_load {explicit : Members}
    (h : load explicit environment file = .error e) : LoadFault environment file e := by
  rw [load] at h
  split at h
  next henvironment =>
    obtain rfl := Except.error.inj h
    exact Source.loadFault_of_membersOf henvironment
  split at h
  next hfile =>
    obtain rfl := Except.error.inj h
    exact Source.loadFault_of_membersOf hfile
  split at h
  next hcheck =>
    obtain rfl := Except.error.inj h
    exact .invalid hcheck
  next => cases h

/-! ### Stores -/

namespace Store

variable {s : Store}

/-- What can be done with a store. -/
inductive Operation where
  /-- The settings are asked for. -/
  | get
  /-- The settings that are kept are forgotten. -/
  | clear
  /-- A variable is set. -/
  | set (name value : String)
  /-- A variable is removed. -/
  | unset (name : String)
  deriving Repr, DecidableEq

/-- The store after an operation. -/
def apply (s : Store) : Operation → Store
  | .get => s.get.2
  | .clear => s.clear
  | .set name value => s.set name value
  | .unset name => s.unset name

/-- The store after a sequence of operations. -/
def run (s : Store) (operations : List Operation) : Store :=
  operations.foldl apply s

/-- The settings that are kept are valid. -/
def Sound (s : Store) : Prop :=
  ∀ l, s.kept = some l → l.settings.Valid

theorem sound_fresh (environment : Variables) (file : Option String) :
    (fresh environment file).Sound := fun l hl => by cases hl

/-- What a store gives is kept already, or has just been loaded. -/
theorem get_cases (s : Store) :
    (∃ l, s.kept = some l ∧ s.get = (.ok l, s)) ∨
      (s.kept = none ∧ ∃ e, Settings.load [] s.environment s.file = .error e ∧
        s.get = (.error e, s)) ∨
      (s.kept = none ∧ ∃ settings, Settings.load [] s.environment s.file = .ok settings ∧
        s.get = (.ok ⟨settings, s.loads⟩,
          { s with kept := some ⟨settings, s.loads⟩, loads := s.loads + 1 })) := by
  cases hkept : s.kept with
  | some l => exact .inl ⟨l, rfl, by simp only [get, hkept]⟩
  | none =>
    cases hload : Settings.load [] s.environment s.file with
    | error e => exact .inr (.inl ⟨rfl, e, rfl, by simp only [get, hkept, hload]⟩)
    | ok settings => exact .inr (.inr ⟨rfl, settings, rfl, by simp only [get, hkept, hload]⟩)

/-- **What a sound store gives is valid.** -/
theorem Sound.valid_of_get (h : s.Sound) {l : Loaded} (hget : s.get.1 = .ok l) :
    l.settings.Valid := by
  rcases s.get_cases with ⟨k, hkept, hs⟩ | ⟨-, e, -, hs⟩ | ⟨-, settings, hload, hs⟩
  · rw [hs] at hget
    obtain rfl := Except.ok.inj hget
    exact h k hkept
  · rw [hs] at hget
    cases hget
  · rw [hs] at hget
    obtain rfl := Except.ok.inj hget
    exact Settings.valid_of_load hload

/-- **An operation leaves a store sound.** Only a load changes what is kept for something else, and
what was loaded is valid. -/
theorem Sound.apply (h : s.Sound) (operation : Operation) : (s.apply operation).Sound := by
  cases operation with
  | get =>
    rcases s.get_cases with ⟨k, -, hs⟩ | ⟨-, e, -, hs⟩ | ⟨-, settings, hload, hs⟩
    · rw [Store.apply, hs]
      exact h
    · rw [Store.apply, hs]
      exact h
    · rw [Store.apply, hs]
      rintro l hl
      obtain rfl := Option.some.inj hl
      exact Settings.valid_of_load hload
  | clear => exact fun l hl => by cases hl
  | set name value => exact h
  | unset name => exact h

/-- **A store stays sound.** The induction is on the operations that are still to come, for the
store that the earlier ones left. -/
theorem Sound.run (h : s.Sound) (operations : List Operation) : (s.run operations).Sound := by
  induction operations generalizing s with
  | nil => exact h
  | cons operation rest ih => exact ih (h.apply operation)

theorem loadFault_of_get (h : s.get.1 = .error e) : LoadFault s.environment s.file e := by
  rcases s.get_cases with ⟨k, -, hs⟩ | ⟨-, fault, hload, hs⟩ | ⟨-, settings, -, hs⟩
  · rw [hs] at h
    cases h
  · rw [hs] at h
    obtain rfl := Except.error.inj h
    exact Settings.loadFault_of_load hload
  · rw [hs] at h
    cases h

/-- **There are renderers whenever there are settings.** Whatever the environment and the file of
variables are, and whatever was done with the store, either it gives settings and the renderers that
they describe are made with their values, or there are no settings for one of the three causes. The
border of every image in the background of the service can be painted in any case. -/
theorem context_of_run (environment : Variables) (file : Option String)
    (operations : List Operation) (available : Bool) :
    ((∃ l c, ((fresh environment file).run operations).get.1 = .ok l ∧
          l.settings.context available = .ok c ∧ c.qr.Furnished l.settings ∧
          c.encoderAvailable = available) ∨
        ∃ e, ((fresh environment file).run operations).get.1 = .error e ∧
          LoadFault ((fresh environment file).run operations).environment
            ((fresh environment file).run operations).file e) ∧
      ∀ (r : Request) (text : String) (image : Picture),
        image.padded (r.rasterOptions text).padding (r.rasterOptions text).background =
            .ok (image.toRgb.frame 8 white) ∧
          image.padded r.dataMatrixOptions.padding r.dataMatrixOptions.background =
            .ok (image.toRgb.frame 3 white) := by
  refine ⟨?_, fun r text image =>
    ⟨padded_background image (by decide), padded_background image (by decide)⟩⟩
  have hsound := (sound_fresh environment file).run operations
  cases hget : ((fresh environment file).run operations).get.1 with
  | ok l =>
    obtain ⟨c, hc, hfurnished, hencoder⟩ :=
      Settings.exists_context (hsound.valid_of_get hget) available
    exact .inl ⟨l, c, rfl, hc, hfurnished, hencoder⟩
  | error e => exact .inr ⟨e, rfl, loadFault_of_get hget⟩

/-- **A list of origins that is no document:** there are no settings, and no field is invalid. -/
theorem context_of_run_unreadable :
    (fresh [("CORS_ORIGINS", "x")] none).get.1 = .error (.unreadable .environment) ∧
      ∀ es, (fresh [("CORS_ORIGINS", "x")] none).get.1 ≠ .error (.invalid es) := by
  have hget : (fresh [("CORS_ORIGINS", "x")] none).get.1 = .error (.unreadable .environment) := by
    decide +kernel
  refine ⟨hget, fun es h => ?_⟩
  rw [hget] at h
  cases h

end Store

end LabelPress
