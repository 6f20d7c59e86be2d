import Reprint.Doc.Basic

/-!
# Layout in lines

A document is laid out in lines of a given width.  A group goes on one line if
it fits there; otherwise its line breaks become line ends.  Indentation is owed
until the first text of a line is written, so blank lines carry none, and
nothing is added at the end of the output.
-/

namespace Reprint

/-- How a document is laid out. -/
structure Layout where
  /-- Columns of one level of indentation. -/
  unit : UInt32 := 4
  /-- The width above which groups are broken. -/
  width : UInt32 := 80
  deriving DecidableEq, Repr, Inhabited

/-! ## The page -/

/-- The text written so far. -/
structure Page where
  text : String := ""
  /-- The column at the end, counting indentation that is owed. -/
  column : Nat := 0
  /-- Indentation owed to the current line. -/
  owed : Option Nat := none

namespace Page

/-- The number of characters behind the last line end. -/
def lastLine (cs : List Char) : Nat := (cs.reverse.takeWhile (· ≠ '\n')).length

/-- Writes a text, after the indentation that is owed to it. -/
def write (page : Page) (s : String) : Page :=
  if s.isEmpty then page
  else
    { text := page.text ++ String.ofList (List.replicate (page.owed.getD 0) ' ') ++ s
      column := if '\n' ∈ s.toList then lastLine s.toList else page.column + s.length
      owed := none }

/-- Ends `count` lines; the next one owes `margin` columns. -/
def endLines (page : Page) (count margin : Nat) : Page :=
  { text := page.text ++ String.ofList (List.replicate count '\n')
    column := margin
    owed := some margin }

end Page

/-! ## Widths -/

/-- The width of a leaf on a flat line, if it can stand on one. -/
def Leaf.flatWidth : Leaf → Option Nat
  | .text s | .comment s => if '\n' ∈ s.toList then none else some s.length
  | .line | .space => some 1
  | .softline => some 0
  | .hardline _ => none

/-- The sum of two widths, if there are both. -/
def addWidths (a b : Option Nat) : Option Nat := a.bind fun m => b.map (m + ·)

/-- So many gaps of one width; where there is no gap its width does not matter. -/
def repeatWidth (gaps : Nat) (w : Option Nat) : Option Nat :=
  if gaps = 0 then some 0 else w.map (gaps * ·)

namespace Doc

mutual

/-- The width of a document on one line, if it can stand on one. -/
def flatWidth : Doc → Option Nat
  | .empty | .after _ | .before _ | .slot .. => some 0
  | .leaf l => l.flatWidth
  | .group body => body.flatWidth
  | .indent _ body => body.flatWidth
  | .seq parts => flatWidths parts
  | .join items separator =>
    addWidths (flatWidths items) (repeatWidth (items.length - 1) separator.flatWidth)
termination_by structural d => d

def flatWidths : List Doc → Option Nat
  | [] => some 0
  | d :: ds => addWidths d.flatWidth (flatWidths ds)
termination_by structural ds => ds

end

/-! ## Printing -/

/-- Whether a document goes on one line, from a column on. -/
def fits (width column : Nat) (d : Doc) : Bool :=
  match d.flatWidth with
  | some w => column + w ≤ width
  | none => false

end Doc

/-- A line is flat or broken. -/
inductive Mode where
  | flat
  | broken
  deriving DecidableEq, Repr, Inhabited

/-- Prints a leaf. -/
def Leaf.print (mode : Mode) (margin : Nat) (page : Page) : Leaf → Page
  | .text s | .comment s => page.write s
  | .space => page.write " "
  | .line =>
    match mode with
    | .flat => page.write " "
    | .broken => page.endLines 1 margin
  | .softline =>
    match mode with
    | .flat => page
    | .broken => page.endLines 1 margin
  | .hardline blanks => page.endLines (blanks.toNat + 1) margin

namespace Doc

mutual

/-- Prints a document behind what is on the page.  Control nodes print nothing. -/
def print (layout : Layout) (mode : Mode) (margin : Nat) : Doc → Page → Page
  | .empty, page | .after _, page | .before _, page | .slot .., page => page
  | .leaf l, page => l.print mode margin page
  | .group body, page =>
    body.print layout (if body.fits layout.width.toNat page.column then .flat else .broken) margin page
  | .indent amount body, page =>
    body.print layout mode (margin + (amount.getD layout.unit).toNat) page
  | .seq parts, page => printAll layout mode margin parts page
  | .join items separator, page =>
    printJoin layout mode margin (separator.print layout mode margin) items page
termination_by structural d => d

def printAll (layout : Layout) (mode : Mode) (margin : Nat) : List Doc → Page → Page
  | [], page => page
  | d :: ds, page => printAll layout mode margin ds (d.print layout mode margin page)
termination_by structural ds => ds

/-- Prints items with a separator between them. -/
def printJoin (layout : Layout) (mode : Mode) (margin : Nat) (separator : Page → Page) :
    List Doc → Page → Page
  | [], page => page
  | d :: ds, page =>
    let page := d.print layout mode margin page
    printJoin layout mode margin separator ds (if ds.isEmpty then page else separator page)
termination_by structural ds => ds

end

/-- The text of a document. -/
def render (layout : Layout) (d : Doc) : String := (d.print layout .broken 0 {}).text

/-! ## Line counts that do not fit a word -/

mutual

/-- Whether the document prints a hard line end whose count of lines, one more
than its count of blank lines, does not fit a word. -/
def overflows : Doc → Bool
  | .empty | .after _ | .before _ | .slot .. => false
  | .leaf (.hardline blanks) => UInt32.size ≤ blanks.toNat + 1
  | .leaf _ => false
  | .group body => body.overflows
  | .indent _ body => body.overflows
  | .seq parts => anyOverflows parts
  | .join items separator => anyOverflows items || (1 < items.length && separator.overflows)
termination_by structural d => d

def anyOverflows : List Doc → Bool
  | [] => false
  | d :: ds => d.overflows || anyOverflows ds
termination_by structural ds => ds

end

/-- The text of a document, unless a count of lines in it does not fit a word. -/
def render? (layout : Layout) (d : Doc) : Option String :=
  if d.overflows then none else some (d.render layout)

end Doc

end Reprint
