import Reprint.Doc.Basic

/-!
# Opening joins

A join becomes a sequence in which its separator stands once in each gap
between two items that print something.  The separator is put there as a slot
that carries it like kept trivia, so that it meets the control nodes of the gap
and beats their spacing.
-/

namespace Reprint.Doc

/-- A gap with the separator in it: right after the first slot, where it meets
that slot, or after the leading after-spacings if the gap has no slot. -/
def joint (separator : Doc) (gap : List Doc) : List Doc :=
  let node := triviaSlot separator false
  match gap.dropWhile (!·.isSlot) with
  | first :: rest => gap.takeWhile (!·.isSlot) ++ first :: node :: rest
  | [] => gap.takeWhile isAfter ++ node :: gap.dropWhile isAfter

/-- The items with the separator in each gap.  `gap` holds the control nodes
since the last item that prints something, and `seen` says if there was one. -/
def interleave (separator : Doc) (seen : Bool) (gap : List Doc) : List Doc → List Doc
  | [] => gap
  | d :: ds =>
    if d.isEmpty then interleave separator seen gap ds
    else if d.isControl then interleave separator seen (gap ++ [d]) ds
    else (if seen then joint separator gap else gap) ++ d :: interleave separator true [] ds

mutual

/-- The document with its joins opened and its sequences in canonical form.
Control nodes keep the documents they carry as they are. -/
def expand : Doc → Doc
  | .join items separator => concat (interleave separator false [] (expandAll items))
  | .group body => .group body.expand
  | .indent amount body => .indent amount body.expand
  | .seq parts => concat (expandAll parts)
  | d => d
termination_by structural d => d

def expandAll : List Doc → List Doc
  | [] => []
  | d :: ds => d.expand :: expandAll ds
termination_by structural ds => ds

end

end Reprint.Doc
