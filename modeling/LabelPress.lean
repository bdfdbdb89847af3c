import LabelPress.Barcode.Batch
import LabelPress.Barcode.Generate
import LabelPress.Barcode.Normalise
import LabelPress.Barcode.Options
import LabelPress.Barcode.Request
import LabelPress.Barcode.Unpaired
import LabelPress.CheckDigit
import LabelPress.Event
import LabelPress.Fault
import LabelPress.Http.Answer
import LabelPress.Http.Cors
import LabelPress.Http.Intake
import LabelPress.Http.Message
import LabelPress.Http.Pattern
import LabelPress.Http.Reply
import LabelPress.Http.Route
import LabelPress.Http.Service
import LabelPress.Image.Colour
import LabelPress.Image.Extent
import LabelPress.Image.Grid
import LabelPress.Image.Padding
import LabelPress.Image.Pixel
import LabelPress.Job
import LabelPress.Json.Arguments
import LabelPress.Json.Display
import LabelPress.Json.Numeric
import LabelPress.Json.Printer
import LabelPress.Json.Reader
import LabelPress.Json.Value
import LabelPress.Log
import LabelPress.Logging
import LabelPress.Logging.Message
import LabelPress.Logging.Template
import LabelPress.Number.Binary64
import LabelPress.Number.Decimal
import LabelPress.Number.Numeral
import LabelPress.Number.Rounding
import LabelPress.Proofs.Command
import LabelPress.Proofs.Scanning
import LabelPress.Qr.Codeword
import LabelPress.Qr.Correction
import LabelPress.Qr.Matrix
import LabelPress.Qr.Renderer
import LabelPress.Qr.Segment
import LabelPress.Qr.Symbol
import LabelPress.Qr.Version
import LabelPress.Render.DataMatrix
import LabelPress.Render.Options
import LabelPress.Render.Query
import LabelPress.Render.Raster
import LabelPress.Settings.Basic
import LabelPress.Settings.Dotenv
import LabelPress.Settings.Source
import LabelPress.Settings.Store
import LabelPress.Symbology
import LabelPress.Symbology.Designator
import LabelPress.Symbology.Preset
import LabelPress.Text.Blank
import LabelPress.Text.CodePoint
import LabelPress.Text.Digit
import LabelPress.Text.Encoding
import LabelPress.Text.Hex
import LabelPress.Text.Integer
import LabelPress.Text.Percent
import LabelPress.Text.Printable
import LabelPress.Text.Quoted
import LabelPress.Text.Search
import LabelPress.Text.UpperCase
import LabelPress.Text.Utf8
import LabelPress.Validation.Check
import LabelPress.Validation.Error
import LabelPress.Zpl.Command
import LabelPress.Zpl.Directive
import LabelPress.Zpl.Document
import LabelPress.Zpl.Line
import LabelPress.Zpl.RawDocument
import LabelPress.Zpl.Report
import LabelPress.Zpl.State
import LabelPress.Zpl.Submission
import LabelPress.Zpl.Template
import LabelPress.Proofs.Emission
import LabelPress.Proofs.Template
import LabelPress.Proofs.Normalising
import LabelPress.Proofs.Rendering
import LabelPress.Proofs.Settings
import LabelPress.Proofs.Version
import LabelPress.Proofs.Fallback
import LabelPress.Proofs.Outcome
import LabelPress.Job.Pool
import LabelPress.Proofs.Interleaving
import LabelPress.Proofs.ValidCode
import LabelPress.Proofs.Batch
import LabelPress.Proofs.Checking
import LabelPress.Proofs.EmptyPayload
import LabelPress.Proofs.Unpaired
import LabelPress.Proofs.Endpoint
import LabelPress.Proofs.Agreement
import LabelPress.Proofs.RawDocument
import LabelPress.Proofs.Label
import LabelPress.Proofs.EncodedDigits
import LabelPress.Proofs.FieldLayout
import LabelPress.Proofs.Silence
import LabelPress.Proofs.Height
import LabelPress.Proofs.Spelling
import LabelPress.Proofs.Independence
import LabelPress.Proofs.Numeral
import LabelPress.Proofs.RawLine
import LabelPress.Proofs.Reachable
import LabelPress.Proofs.DocumentForm
import LabelPress.Proofs.LeadingZero
import LabelPress.Proofs.ErrorDetection
import LabelPress.Proofs.HexColour
import LabelPress.Proofs.MatrixImage
import LabelPress.Proofs.Resampling
import LabelPress.Proofs.FinderPattern
import LabelPress.Proofs.QrGeometry
import LabelPress.Proofs.ColourText
import LabelPress.Proofs.ScaleFactor
import LabelPress.Proofs.SymbologyName
import LabelPress.Proofs.RenderContext
import LabelPress.Proofs.PaddedImage
