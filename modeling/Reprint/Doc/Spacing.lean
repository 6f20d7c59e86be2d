import Reprint.Doc.Basic

/-!
# The stronger of two spacings

Two requests for spacing may meet at one place.  White space is ordered by how
much it separates; any other document was asked for on purpose and beats white
space.  Of two equals the first is kept.
-/

namespace Reprint.Doc

/-- How much a spacing separates; `none` for a document that is no white space. -/
def strength? : Doc → Option Nat
  | .empty => some 0
  | .softline => some 1
  | .space => some 2
  | .line => some 3
  | .hardline blanks => some (4 + blanks.toNat)
  | _ => none

/-- The stronger of two spacings. -/
def merge (a b : Doc) : Doc :=
  match a.strength?, b.strength? with
  | some m, some n => if m < n then b else a
  | some _, none => b
  | none, _ => a

/-- The stronger of two spacings, either of which may be missing. -/
def merge? : Option Doc → Option Doc → Option Doc
  | some a, some b => some (a.merge b)
  | some a, none => some a
  | none, b => b

/-- The strongest of a list of spacings, merged from the left. -/
def mergeAll? : List Doc → Option Doc
  | [] => none
  | d :: ds => some (ds.foldl merge d)

end Reprint.Doc
