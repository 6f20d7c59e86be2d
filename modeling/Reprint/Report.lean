import Reprint.Parse
import Reprint.Style.Token

/-!
# Reports

An error is reported with a code, a header, the line and column where it is, and
labels for the places that have to do with it.
-/

namespace Reprint

/-- A report of an error. -/
structure Report where
  code : String
  message : String
  line : Nat
  column : Nat
  /-- The texts at the places of the error, sorted. -/
  labels : List String
  deriving DecidableEq, Repr, Inhabited

namespace Report

/-- The first line of a report. -/
def header (r : Report) : String := "[" ++ r.code ++ "] Error: " ++ r.message

/-- The line and the column, counted from one. -/
def location (r : Report) : String := toString r.line ++ ":" ++ toString r.column

/-- The characters that end a line. -/
def isLineEnd (c : Char) : Bool :=
  c == '\n' || c == '\r' || c == '\x0b' || c == '\x0c' || c == '\u0085' || c == '\u2028'
    || c == '\u2029'

/-- The line and column behind so many characters, given those at the start of a
text.  A carriage return and a line feed end a line together, and a line end at
the very end of the text begins no other line. -/
def positionFrom (line column : Nat) : (count : Nat) → List Char → Nat × Nat
  | 0, _ | _, [] => (line, column)
  | count + 1, c :: cs =>
    if isLineEnd c && !cs.isEmpty && !(c == '\r' && cs.head? == some '\n') then
      positionFrom (line + 1) 1 count cs
    else positionFrom line (column + 1) count cs

/-- The line and column at an offset of a text. -/
def position (source : String) (offset : Nat) : Nat × Nat :=
  positionFrom 1 1 offset source.toList

/-- A report about a place of a text. -/
def make (code message source : String) (span : Span) (labels : List String) : Report :=
  let (line, column) := position source span.start
  { code, message, line, column, labels := labels.mergeSort fun a b => decide (a ≤ b) }

end Report

/-- The code of a fault of a style sheet. -/
def StyleFault.code : StyleFault → String
  | .invalidToken => "C0001"
  | .unexpected .. => "C0002"
  | .unknownStatement _ => "C0003"
  | .unknownSpacing _ => "C0004"
  | .nestedRule => "C0005"
  | .preserveInRule => "C0006"
  | .invalidNumber _ => "C0007"
  | .tooLong _ => "C0008"

/-- What is said at the place of a fault. -/
def StyleFault.label : StyleFault → String
  | .unexpected expected _ => "expected " ++ expected ++ " here"
  | .unknownSpacing _ => "spacing is one of nil, nbsp, bsp, soft, hard, blank"
  | .nestedRule => "rule blocks only appear at the top level"
  | fault => fault.message

/-- The report of an error in a style sheet. -/
def StyleError.report (e : StyleError) (source : String) : Report :=
  .make e.fault.code e.fault.message source e.span [e.fault.label]

/-- The report of a failure to read a text. -/
def ParseError.report (e : ParseError) (source : String) : Report :=
  .make "P0001" e.message source e.span ("here" :: (e.related.map (·.1)).toList)

end Reprint
