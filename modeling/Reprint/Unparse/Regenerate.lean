import Reprint.Style.Basic
import Reprint.Text.Quoted

/-!
# Suppressed items

A suppressed item leaves nothing in the tree, so its text has to follow from
the grammar.  It does for literals, and for groups whose first production has
only such items among those it needs.
-/

namespace Reprint

/-! ## What can be regenerated -/

section Regenerable

variable {ρ π : Type}

mutual

/-- Whether the text of a term follows from the grammar. -/
def Term.isRegenerable : Term ρ π → Bool
  | .literal _ => true
  | .group [] => false
  | .group (p :: _) => productionRegenerable p
  | .rule _ | .pattern _ => false
termination_by structural t => t

def productionRegenerable : Production (Term ρ π) → Bool
  | ⟨items, _⟩ => itemsRegenerable items
termination_by structural p => p

/-- Whether this holds of all items that have to occur. -/
def itemsRegenerable : List (Item (Term ρ π)) → Bool
  | [] => true
  | i :: is => itemRegenerable i && itemsRegenerable is
termination_by structural is => is

def itemRegenerable : Item (Term ρ π) → Bool
  | ⟨_, _, term, quantifier, _⟩ => quantifier.least == 0 || term.isRegenerable
termination_by structural i => i

end

mutual

/-- The first item in a term that is suppressed, has to occur and cannot be regenerated. -/
def lostInTerm? : Term ρ π → Option (Item (Term ρ π))
  | .group ps => lostInProductions? ps
  | .rule _ | .literal _ | .pattern _ => none
termination_by structural t => t

def lostInProductions? : List (Production (Term ρ π)) → Option (Item (Term ρ π))
  | [] => none
  | p :: ps => lostInProduction? p <|> lostInProductions? ps
termination_by structural ps => ps

def lostInProduction? : Production (Term ρ π) → Option (Item (Term ρ π))
  | ⟨items, _⟩ => lostInItems? items
termination_by structural p => p

def lostInItems? : List (Item (Term ρ π)) → Option (Item (Term ρ π))
  | [] => none
  | i :: is => lostItem? i <|> lostInItems? is
termination_by structural is => is

def lostItem? : Item (Term ρ π) → Option (Item (Term ρ π))
  | ⟨slot, label, term, quantifier, suppressed⟩ =>
    if suppressed && quantifier.least != 0 && !term.isRegenerable then
      some ⟨slot, label, term, quantifier, suppressed⟩
    else lostInTerm? term
termination_by structural i => i

end

end Regenerable

/-- The first item of a grammar that cannot be regenerated, with the name of its rule. -/
def Grammar.lost? (g : Grammar) : Option (String × Item Grammar.Term) :=
  g.rules.findSome? fun r => (lostInProductions? r.productions).map fun i => (r.name, i)

/-- An item in the words of a message. -/
def Grammar.describe (g : Grammar) (i : Item Grammar.Term) : String :=
  let term := match i.term with
    | .rule id => "`" ++ g.ruleName id ++ "`"
    | .literal text => Text.quote text
    | .pattern p => p.shown
    | .group _ => "(...)"
  (i.label.map (· ++ "=")).getD "" ++ term

/-! ## Regenerating -/

/-- The slot of a rule with what is usual there. -/
def Style.usualSlot (s : Style) (rule : String) (sep : Separator) : Doc :=
  .spacingSlot (s.spacing rule sep) (sep == .required)

/-- The usual slot as a part of a document; there is none where no blanks may stand. -/
def Style.usualSlots (s : Style) (rule : String) (sep : Separator) : List Doc :=
  if sep = .none then [] else [s.usualSlot rule sep]

section Regenerate

variable (style : Style) (rule : String)

mutual

/-- The text of a term as it follows from the grammar. -/
def regenerate : Grammar.Term → Doc
  | .literal text => .text text
  | .group [] => .empty
  | .group (p :: _) => .concat (regenerateProduction p)
  | .rule _ | .pattern _ => .empty
termination_by structural t => t

def regenerateProduction : Production Grammar.Term → List Doc
  | ⟨items, _⟩ => regenerateItems items
termination_by structural p => p

def regenerateItems : List (Item Grammar.Term) → List Doc
  | [] => []
  | i :: is => regenerateItem i ++ regenerateItems is
termination_by structural is => is

/-- An item as often as it has to occur, each time with its slot. -/
def regenerateItem : Item Grammar.Term → List Doc
  | ⟨slot, _, term, quantifier, _⟩ =>
    (List.replicate quantifier.least (style.usualSlots rule slot ++ [regenerate term])).flatten
termination_by structural i => i

end

end Regenerate

end Reprint
