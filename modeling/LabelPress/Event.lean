import LabelPress.Barcode.Normalise
import LabelPress.Log
import LabelPress.Qr.Version
import LabelPress.Render.Options
import LabelPress.Render.Query

/-!
# Log events

What is reported while documents are read and barcodes are generated. An event has a name, a level
and fields; all three follow from the event itself.
-/

namespace LabelPress

open LabelPress.Json LabelPress.CheckDigit

/-- Something worth reporting. -/
inductive Event where
  /-- The raster engine is asked for Code 128 since it does not know the type. -/
  | rendererIdDefaulted (designator rendererId : String)
  /-- A check digit was appended. -/
  | checkDigitComputed (scheme : Scheme) (given code : String)
  /-- A check digit was replaced. -/
  | checkDigitRepaired (scheme : Scheme) (given corrected : String)
  /-- A payload has a length that does not fit its symbology. -/
  | lengthInvalid (scheme : Scheme) (length : Nat)
  /-- Field data of a document belongs to no barcode command. -/
  | orphanedData (data : String)
  /-- A document ends before the data of a barcode command. -/
  | danglingType (symbology : Symbology)
  /-- A document has been read. -/
  | documentRead (lines directives : Nat)
  /-- The options of a barcode have been settled. -/
  | optionsSettled (options : Render.Options)
  /-- The raster engine is about to be asked. -/
  | rasterRender (query : Render.RasterQuery)
  /-- A QR symbol has been laid out. -/
  | qrRender (version : Nat) (size margin : Value) (level : Qr.Level)
  /-- A Data Matrix could not be drawn, and Code 128 is tried instead. -/
  | dataMatrixFallback (error : String)
  /-- A barcode could not be generated. -/
  | generationFailed (type error : String)
  /-- A batch has been generated. -/
  | batchCompleted (total failed : Nat)
  /-- The service starts. -/
  | serviceStarting (environment version : String) (dataMatrixAvailable : Bool)
  /-- The service has stopped. -/
  | serviceStopped

namespace Event

/-- The first part of the names of events about check digits. -/
def schemeWord : Scheme → String
  | .ean13 => "ean13"
  | .upcA => "upca"

/-- What the last digit of a scheme is called in the names of events. -/
def digitWord : Scheme → String
  | .ean13 => "checksum"
  | .upcA => "check_digit"

/-- The name of an event. -/
def name : Event → String
  | rendererIdDefaulted .. => "renderer_id_defaulted"
  | checkDigitComputed s _ _ => schemeWord s ++ "_" ++ digitWord s ++ "_computed"
  | checkDigitRepaired s _ _ => schemeWord s ++ "_" ++ digitWord s ++ "_repaired"
  | lengthInvalid s _ => schemeWord s ++ "_length_invalid"
  | orphanedData _ => "zpl_orphan_field_data_dropped"
  | danglingType _ => "zpl_trailing_type_dropped"
  | documentRead .. => "zpl_parse_completed"
  | optionsSettled _ => "barcode_render_options"
  | rasterRender _ => "raster_render"
  | qrRender .. => "qr_render"
  | dataMatrixFallback _ => "datamatrix_fallback_to_code128"
  | generationFailed .. => "barcode_generation_failed"
  | batchCompleted .. => "barcode_batch_completed"
  | serviceStarting .. => "starting_application"
  | serviceStopped => "application_shutdown_complete"

/-- The level of an event. -/
def level : Event → LogLevel
  | lengthInvalid .. | documentRead .. | batchCompleted .. | serviceStarting ..
  | serviceStopped => .info
  | dataMatrixFallback _ => .warning
  | generationFailed .. => .error
  | _ => .debug

/-- The fields of an event. -/
def fields : Event → Members
  | rendererIdDefaulted d r => [("barcode_type", .string d), ("renderer_id", .string r)]
  | checkDigitComputed _ o n => [("original", .string o), ("normalized", .string n)]
  | checkDigitRepaired _ o c => [("original", .string o), ("corrected", .string c)]
  | lengthInvalid _ n => [("length", .int n)]
  | orphanedData d => [("data", .string d)]
  | danglingType s => [("barcode_type", .string s.name)]
  | documentRead l d => [("lines", .int l), ("directives", .int d)]
  | optionsSettled o => o.listed
  | rasterRender q =>
    [("bcid", q.rendererId), ("scale", .int q.scale),
     ("options", .object q.settings.entries)]
  | qrRender v s m l =>
    [("version", .int v), ("size", s), ("margin", m), ("error_correction", .string l.name)]
  | dataMatrixFallback e => [("error", .string e)]
  | generationFailed t e => [("barcode_type", .string t), ("error", .string e)]
  | batchCompleted t f => [("total", .int t), ("failed", .int f)]
  | serviceStarting e v a =>
    [("environment", .string e), ("version", .string v), ("datamatrix_available", .bool a)]
  | serviceStopped => []

/-- The events about what became of a payload. -/
def ofNormalised : Barcode.Normalised → List Event
  | .unchanged _ | .sound _ => []
  | .completed s given code => [checkDigitComputed s given code]
  | .repaired s given corrected => [checkDigitRepaired s given corrected]
  | .rejected w => [lengthInvalid w.scheme w.data.length]

end Event

end LabelPress
