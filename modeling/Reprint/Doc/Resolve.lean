import Reprint.Doc.Join
import Reprint.Doc.Edges
import Reprint.Doc.Cell

/-!
# Resolving a document

Resolution turns a document with control nodes and joins into a final one.
Joins are opened, control nodes leave the edges of groups and indentations,
each list of parts is reduced from the inside out, and a line break that came
to stand in front of an indentation goes back into it.

A rule of the reduction may choose a document that a control node carries, and
that document is resolved in turn.  `nesting` counts how deep control nodes and
separators carry one another, and bounds how often that can happen.
-/

namespace Reprint.Doc

/-! ## One list of parts -/

/-- One pass over a list of cells that reduces each run of control cells on its
own.  A line end written as text belongs to the run that it opens. -/
def sweep (settle : Doc → Doc) (run : List Cell) : List Cell → List Cell
  | [] => Cell.reduce settle run
  | c :: cs =>
    if c.isControl then sweep settle (run ++ [c]) cs
    else if c.isNewline then Cell.reduce settle run ++ sweep settle [c] cs
    else Cell.reduce settle run ++ c :: sweep settle [] cs

/-- The reduced list as one document. -/
def assemble (settle : Doc → Doc) (cells : List Cell) : Doc :=
  concat ((sweep settle [] cells).map Cell.doc)

mutual

/-- A part as a cell, reduced inside. -/
def toCell (settle : Doc → Doc) : Doc → Cell
  | .seq parts => .raw (assemble settle (toCells settle parts))
  | .group body =>
    .raw (.group (assemble settle (match body with
      | .seq parts => toCells settle parts
      | .empty => []
      | body => [toCell settle body])))
  | .indent amount body =>
    .raw (.indent amount (assemble settle (match body with
      | .seq parts => toCells settle parts
      | .empty => []
      | body => [toCell settle body])))
  | d => .raw d
termination_by structural d => d

/-- The parts as cells, each reduced inside. -/
def toCells (settle : Doc → Doc) : List Doc → List Cell
  | [] => []
  | d :: ds => toCell settle d :: toCells settle ds
termination_by structural ds => ds

end

/-! ## Breaks in front of an indentation -/

/-- Moves each line break that stands directly before an indentation into it. -/
def moveBreaks : List Doc → List Doc
  | [] => []
  | [d] => [d]
  | d :: next@(.indent amount body :: rest) =>
    if d.isBreak then .indent amount (concat [d, body]) :: moveBreaks rest
    else d :: moveBreaks next
  | d :: next@(_ :: _) => d :: moveBreaks next

mutual

/-- Moves line breaks into the indentations behind them, from the inside out. -/
def sink : Doc → Doc
  | .group body => .group body.sink
  | .indent amount body => .indent amount body.sink
  | .seq parts => concat (moveBreaks (sinkAll parts))
  | d => d
termination_by structural d => d

def sinkAll : List Doc → List Doc
  | [] => []
  | d :: ds => d.sink :: sinkAll ds
termination_by structural ds => ds

end

/-! ## The whole document -/

/-- Resolution, given how the documents that control nodes carry are resolved. -/
def resolveWith (settle : Doc → Doc) (d : Doc) : Doc :=
  let e := d.expand.edges
  (assemble settle (toCells settle (e.leading ++ e.body.items ++ e.trailing))).sink

mutual

/-- How deep control nodes and separators carry one another. -/
def nesting : Doc → Nat
  | .empty | .leaf _ => 0
  | .group body => body.nesting
  | .indent _ body => body.nesting
  | .seq parts => nestingAll parts
  | .join items separator => max (nestingAll items) (separator.nesting + 1)
  | .after spacing => spacing.nesting + 1
  | .before spacing => spacing.nesting + 1
  | .slot spacing trivia _ => max (nestingIn spacing) (nestingIn trivia)
termination_by structural d => d

def nestingAll : List Doc → Nat
  | [] => 0
  | d :: ds => max d.nesting (nestingAll ds)
termination_by structural ds => ds

def nestingIn : Option Doc → Nat
  | none => 0
  | some d => d.nesting + 1
termination_by structural d => d

end

/-- Resolution of documents that nest no deeper than a bound. -/
def resolveWithin : Nat → Doc → Doc
  | 0 => resolveWith id
  | bound + 1 => resolveWith (resolveWithin bound)

/-- The final document that a document stands for. -/
def resolve (d : Doc) : Doc := resolveWithin d.nesting d

end Reprint.Doc
