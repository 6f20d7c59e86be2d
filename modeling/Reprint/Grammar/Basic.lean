import Reprint.Pattern

/-!
# Grammars

A grammar is a table of rules.  A rule is a list of productions, tried in
order; a production is a list of items, and in front of each item there is a
slot that says whether blanks may, must or must not stand there.

Terms are written over two types: what a rule is called and what a pattern is.
In a grammar that is being written down both are texts; in a checked grammar
rules are places in the table and patterns are compiled.
-/

namespace Reprint

/-- Whether blanks may stand in a slot. -/
inductive Separator where
  /-- No blanks. -/
  | none
  /-- Blanks may stand here. -/
  | allowed
  /-- Blanks have to stand here. -/
  | required
  deriving DecidableEq, Repr, Inhabited

/-- How often an item may occur. -/
inductive Quantifier where
  | one
  | optional
  | many
  | some
  deriving DecidableEq, Repr, Inhabited

namespace Quantifier

/-- The least number of occurrences. -/
def least : Quantifier → Nat
  | .one | .some => 1
  | .optional | .many => 0

/-- Whether there may be more than one occurrence. -/
def repeats : Quantifier → Bool
  | .many | .some => true
  | .one | .optional => false

end Quantifier

/-- One part of a production. -/
structure Item (τ : Type) where
  /-- The slot in front of each occurrence. -/
  slot : Separator := .none
  label : Option String := none
  term : τ
  quantifier : Quantifier := .one
  /-- Whether what matches is left out of the tree. -/
  suppressed : Bool := false
  deriving Inhabited

/-- A list of items with a slot behind the last one. -/
structure Production (τ : Type) where
  items : List (Item τ)
  trailing : Separator := .none
  deriving Inhabited

/-- What an item matches. -/
inductive Term (ρ π : Type) where
  | rule (r : ρ)
  | literal (text : String)
  | pattern (p : π)
  | group (productions : List (Production (Term ρ π)))
  deriving Inhabited

/-- A named list of productions. -/
structure Rule (τ : Type) where
  name : String
  productions : List (Production τ)
  deriving Inhabited

/-- The text of a literal term. -/
def Term.literal? {ρ π : Type} : Term ρ π → Option String
  | .literal text => .some text
  | _ => .none

/-! ## Checked grammars -/

/-- A term of a checked grammar. -/
abbrev Grammar.Term := Reprint.Term Nat Pattern

/-- A checked grammar. -/
structure Grammar where
  rules : List (Rule Grammar.Term)
  /-- The rule for what may stand in slots. -/
  trivia : Option Nat
  deriving Inhabited

namespace Grammar

/-- The place of a rule in the table. -/
def ruleId? (g : Grammar) (name : String) : Option Nat := g.rules.findIdx? (·.name == name)

/-- The name of the rule at a place of the table.  It is asked for places of the table
alone. -/
def ruleName (g : Grammar) (id : Nat) : String := (g.rules[id]?.map (·.name)).getD ""

/-- Whether a rule is the one for what may stand in slots. -/
def isTrivia (g : Grammar) (id : Nat) : Bool := g.trivia == some id

end Grammar

end Reprint
