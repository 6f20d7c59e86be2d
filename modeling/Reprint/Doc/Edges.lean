import Reprint.Doc.Basic

/-!
# Control nodes at the edges

A control node at the edge of a group or an indentation is about what stands
outside.  It is taken out, so that it meets the control nodes there.
-/

namespace Reprint.Doc

/-- Control nodes that may leave a document at its front. -/
def isLeading : Doc → Bool
  | .before _ | .slot .. => true
  | _ => false

/-- Control nodes that may leave a document at its back. -/
def isTrailing : Doc → Bool
  | .after _ | .slot .. => true
  | _ => false

/-- A document with the control nodes at its two edges taken out. -/
structure Edges where
  leading : List Doc
  body : Doc
  trailing : List Doc

namespace Edges

/-- The three parts one after the other, where the document stood in a list. -/
def flatten (e : Edges) : List Doc :=
  e.leading ++ (if e.body.isEmpty then [] else [e.body]) ++ e.trailing

/-- The same edges around another body. -/
def wrap (f : Doc → Doc) (e : Edges) : Edges := { e with body := f e.body }

/-- The edges of a list of parts. -/
def ofParts (ds : List Doc) : Edges :=
  let rest := (ds.dropWhile isLeading).reverse
  { leading := ds.takeWhile isLeading
    body := concat (rest.dropWhile isTrailing).reverse
    trailing := (rest.takeWhile isTrailing).reverse }

end Edges

mutual

/-- The control nodes at the edges of a document, at whatever depth of groups,
indentations and sequences, and what stands between them. -/
def edges : Doc → Edges
  | .group body => body.edges.wrap .group
  | .indent amount body => body.edges.wrap (.indent amount)
  | .seq parts => Edges.ofParts (flattenAll parts)
  | .before spacing => ⟨[.before spacing], .empty, []⟩
  | .slot spacing trivia required => ⟨[.slot spacing trivia required], .empty, []⟩
  | .after spacing => ⟨[], .empty, [.after spacing]⟩
  | d => ⟨[], d, []⟩
termination_by structural d => d

def flattenAll : List Doc → List Doc
  | [] => []
  | d :: ds => d.edges.flatten ++ flattenAll ds
termination_by structural ds => ds

end

end Reprint.Doc
