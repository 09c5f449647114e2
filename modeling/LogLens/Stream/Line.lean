import LogLens.Filter.Basic
import LogLens.Layout.Line
import LogLens.Stream.Lines
/-!
# What becomes of a line

A line that is a JSON object is a record: it is shown in the layout of the view when the filter
shows it, and hidden otherwise. Every other line passes through as it is, whatever the filter is;
the reason is kept for the diagnostics.
-/

namespace LogLens.Stream

/-- Why a line is no record. -/
inductive NoRecord where
  | notUtf8 (fault : Text.Utf8Fault)
  | badLine (e : Record.LineError)
  deriving DecidableEq, Repr

/-- The wording of the reason. -/
def NoRecord.message : NoRecord → String
  | notUtf8 fault => fault.message
  | badLine e => e.message

/-- What becomes of a line. -/
inductive LineResult where
  | passed (reason : NoRecord)
  | hidden (errors : List FieldError)
  | shown (text : String) (errors : List FieldError)
  deriving DecidableEq, Repr

namespace LineResult

/-- The fields of the line that did not fit. -/
def errors : LineResult → List FieldError
  | passed _ => []
  | hidden errors => errors
  | shown _ errors => errors

/-- What the filter and the view make of a decoded record. -/
def ofDecoded (filter : Filter) (view : View) (decoded : Record.Decoded) : LineResult :=
  if filter.shows decoded.1 then shown (Layout.text view decoded.1) decoded.2
  else hidden decoded.2

/-- What becomes of a text. -/
def ofText (filter : Filter) (view : View) (text : String) : LineResult :=
  match Record.ofLine text with
  | .ok decoded => ofDecoded filter view decoded
  | .error e => passed (.badLine e)

/-- What becomes of a line. -/
def ofLine (filter : Filter) (view : View) (line : List UInt8) : LineResult :=
  match Text.decode? line with
  | some text => ofText filter view text
  | none => passed (.notUtf8 ((Text.firstFault? line).getD ⟨0, none⟩))

/-- What is written for a line, one write after the other. -/
def writes (line : List UInt8) : LineResult → List (List UInt8)
  | passed _ => [line, [lineFeed]]
  | hidden _ => []
  | shown text _ => [Text.encode text, [lineFeed]]

end LineResult

end LogLens.Stream
