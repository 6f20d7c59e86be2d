import Reprint.Pattern.Reader
import Reprint.Pattern.Size
import Reprint.Pattern.Program
import Reprint.Text.Bytes

/-!
# Patterns

A pattern is tried at a place of a text.  It is read inside a group behind `^`,
so that it matches at the place itself, and it sees only the text from there on:
what stands before the place does not count.
-/

namespace Reprint

/-- A pattern with the text it was written as. -/
structure Pattern where
  source : String
  program : Pattern.Program
  deriving Inhabited

namespace Pattern

/-- The text that is read for a pattern written as `source`. -/
def anchored (source : String) : List Char := "^(?:".toList ++ source.toList ++ [')']

/-- The pattern written as `source`, if that is well formed and not too large. -/
def compile? (source : String) : Option Pattern := do
  let e ← Expr.read? (anchored source)
  if e.fits then return { source, program := .ofExpr e } else none

/-- The preferred match in a text: the number of characters before it and up to its end. -/
def find? (p : Pattern) (cs : List Char) : Option (Nat × Nat) := p.program.search none 0 cs

/-- The number of characters up to the end of the match in a text. -/
def taken? (p : Pattern) (cs : List Char) : Option Nat := (p.find? cs).map (·.2)

/-- The offset behind the match at an offset of a text.  There is none at an
offset that cuts a character or lies beyond the text. -/
def matchAt? (p : Pattern) (input : String) (offset : Nat) : Option Nat := do
  let rest ← Text.dropBytes? offset input.toList
  let n ← p.taken? rest
  return offset + Text.width (rest.take n)

/-- Whether a pattern, tried on a text alone, takes all of it. -/
def takesAll (p : Pattern) (cs : List Char) : Bool := p.taken? cs == some cs.length

/-- A pattern as it is shown in messages. -/
def shown (p : Pattern) : String := "/" ++ p.source ++ "/"

end Pattern

end Reprint
