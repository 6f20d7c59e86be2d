import Reprint.Layout
import Reprint.Parse
import Reprint.Unparse

/-!
# Formatting

A text is read by a rule, taken back to a document in a style and laid out.
-/

namespace Reprint

/-- Why a text could not be formatted. -/
inductive FormatError where
  | parse (e : ParseError)
  | setup (e : SetupError)
  | unparse (e : UnparseError)
  /-- A count of lines does not fit a word. -/
  | overflow
  deriving Inhabited

def FormatError.message : FormatError → String
  | .parse e => "parse error: " ++ e.message
  | .setup e => e.message
  | .unparse e => e.message
  | .overflow => "too many blank lines"

/-- The text formatted. -/
def format (g : Grammar) (style : Style) (rule source : String) (layout : Layout) :
    Except FormatError String :=
  match g.parse rule source with
  | .error f => .error (.parse (f.explain g source))
  | .ok tree =>
    match Unparser.make g style with
    | .error e => .error (.setup e)
    | .ok u =>
      match u.unparse rule tree source with
      | .error e => .error (.unparse e)
      | .ok d =>
        match d.render? layout with
        | none => .error .overflow
        | some text => .ok text

end Reprint
