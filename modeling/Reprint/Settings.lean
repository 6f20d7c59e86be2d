import Reprint.Layout
import Reprint.Toml.Document

/-!
# Settings files

The layout can be set in a TOML document.  It names the columns of one level of
indentation and the greatest width; what is missing keeps its default, and all
else in the document is ignored.
-/

namespace Reprint

/-- A number of columns in a settings file. -/
def columns? : Toml.Item → Option UInt32
  | .value (.integer n) => if 0 ≤ n && n < UInt32.size then some n.toNat.toUInt32 else none
  | _ => none

/-- The layout that a settings file describes. -/
def Layout.ofToml? (source : String) : Option Layout := do
  let entries ← Toml.read? source
  let layout : Layout := {}
  let unit ← match entries.lookup "indent_width" with
    | some item => columns? item
    | none => some layout.unit
  let width ← match entries.lookup "max_width" with
    | some item => columns? item
    | none => some layout.width
  return { unit, width }

end Reprint
