import Reprint.Assembly
import Reprint.Grammar.Basic
import Reprint.Style.Anchor
import Reprint.Table

/-!
# Styles

A style says how the documents of a language are spaced and bracketed: what is
usual in slots, which directives belong to which anchor, what becomes of single
items and which trivia is kept.  It holds for all rules, with entries of single
rules beside it.

A style is the result of a list of commands.
-/

namespace Reprint

/-! ## What belongs to an anchor -/

/-- Something to be done at an anchor. -/
inductive Directive where
  | spacing (d : Doc)
  | opening (b : Bracket)
  | closing (name : BracketName)
  deriving Inhabited

namespace Directive

def isClosing : Directive → Bool
  | .closing _ => true
  | _ => false

def isSpacing : Directive → Bool
  | .spacing _ => true
  | _ => false

end Directive

/-- What becomes of an item. -/
inductive Treatment where
  | normal
  /-- Left out. -/
  | omitted
  /-- Printed as something else. -/
  | replaced (d : Doc)
  deriving Inhabited

/-- All that belongs to one anchor. -/
structure Entry where
  directives : List Directive := []
  treatment : Option Treatment := none
  deriving Inhabited

namespace Entry

def isEmpty (e : Entry) : Bool := e.directives.isEmpty && e.treatment.isNone

/-- Adds a directive: closings in front, all others behind, so that brackets
opened at one anchor close in reverse order at another. -/
def add (e : Entry) (d : Directive) : Entry :=
  { e with directives := if d.isClosing then d :: e.directives else e.directives ++ [d] }

/-- Sets the treatment unless there is one. -/
def treat (e : Entry) (t : Treatment) : Entry := { e with treatment := e.treatment <|> some t }

/-- The entry of a rule together with the one for all rules.  The rule's spacing
replaces the general one, and the general brackets enclose the rule's. -/
def within (own general : Entry) : Entry :=
  let hasSpacing := own.directives.any Directive.isSpacing
  let front := general.directives.filter fun d =>
    !d.isClosing && !(hasSpacing && d.isSpacing)
  { directives := front ++ own.directives ++ general.directives.filter Directive.isClosing
    treatment := own.treatment <|> general.treatment }

end Entry

/-! ## Which trivia is kept -/

/-- Which trivia is kept. -/
inductive Retention where
  | all
  /-- Trivia with a child of one of these rules. -/
  | only (rules : List String)
  deriving Inhabited

namespace Retention

/-- Whether trivia with children of these rules is kept. -/
def keeps : Retention → List String → Bool
  | .all, _ => true
  | .only rules, names => names.any rules.contains

/-- The rules named, in order and each once; `none` if all trivia is kept. -/
def names? : Retention → Option (List String)
  | .all => none
  | .only rules => some (rules.mergeSort fun a b => decide (a ≤ b)).eraseReps

end Retention

/-! ## Styles -/

/-- The entries of one rule. -/
structure RuleStyle where
  allowed : Option Doc := none
  required : Option Doc := none
  anchors : Table Anchor Entry := []
  deriving Inhabited

/-- A style. -/
structure Style where
  /-- What is usual where blanks may stand. -/
  allowed : Doc := .empty
  /-- What is usual where blanks have to stand. -/
  required : Doc := .space
  anchors : Table Anchor Entry := []
  rules : Table String RuleStyle := []
  retention : Retention := .all
  /-- Anchors whose treatment was set again in the same scope, in order. -/
  conflicts : List (Option String × Anchor) := []
  deriving Inhabited

/-- The rule that a command is for, or all of them. -/
abbrev Scope := Option String

namespace Style

/-- Changes the entries of a rule. -/
def modifyRule (s : Style) (rule : String) (f : RuleStyle → RuleStyle) : Style :=
  { s with rules := s.rules.modify rule {} f }

/-- The entry at an anchor in one scope alone. -/
def entry? (s : Style) (scope : Scope) (anchor : Anchor) : Option Entry :=
  match scope with
  | none => s.anchors.get? anchor
  | some rule => (s.rules.get? rule).bind (·.anchors.get? anchor)

/-- Changes the entry at an anchor in one scope. -/
def modifyEntry (s : Style) (scope : Scope) (anchor : Anchor) (f : Entry → Entry) : Style :=
  match scope with
  | none => { s with anchors := s.anchors.modify anchor {} f }
  | some rule => s.modifyRule rule fun r => { r with anchors := r.anchors.modify anchor {} f }

/-! ## Commands -/

def setAllowed (s : Style) (scope : Scope) (d : Doc) : Style :=
  match scope with
  | none => { s with allowed := d }
  | some rule => s.modifyRule rule fun r => { r with allowed := some d }

def setRequired (s : Style) (scope : Scope) (d : Doc) : Style :=
  match scope with
  | none => { s with required := d }
  | some rule => s.modifyRule rule fun r => { r with required := some d }

/-- Adds a directive at an anchor. -/
def direct (s : Style) (scope : Scope) (anchor : Anchor) (d : Directive) : Style :=
  s.modifyEntry scope anchor (·.add d)

/-- Sets the treatment at an anchor.  The first one in a scope stands; a later
one is noted as a conflict. -/
def treat (s : Style) (scope : Scope) (anchor : Anchor) (t : Treatment) : Style :=
  let taken := ((s.entry? scope anchor).bind (·.treatment)).isSome
  let s := s.modifyEntry scope anchor (·.treat t)
  if taken then { s with conflicts := s.conflicts ++ [(scope, anchor)] } else s

def retain (s : Style) (r : Retention) : Style := { s with retention := r }

end Style

/-- A change of a style. -/
inductive Command where
  | setAllowed (scope : Scope) (d : Doc)
  | setRequired (scope : Scope) (d : Doc)
  | direct (scope : Scope) (anchor : Anchor) (d : Directive)
  | treat (scope : Scope) (anchor : Anchor) (t : Treatment)
  | retain (r : Retention)
  deriving Inhabited

namespace Style

/-- The style after a command. -/
def run (s : Style) : Command → Style
  | .setAllowed scope d => s.setAllowed scope d
  | .setRequired scope d => s.setRequired scope d
  | .direct scope anchor d => s.direct scope anchor d
  | .treat scope anchor t => s.treat scope anchor t
  | .retain r => s.retain r

/-- The style after a list of commands. -/
def runAll (s : Style) (commands : List Command) : Style := commands.foldl run s

/-! ## Looking up -/

/-- What is usual in a slot of a rule. -/
def spacing (s : Style) (rule : String) : Separator → Doc
  | .none => .empty
  | .allowed => ((s.rules.get? rule).bind (·.allowed)).getD s.allowed
  | .required => ((s.rules.get? rule).bind (·.required)).getD s.required

/-- All that belongs to an anchor in a rule. -/
def entryAt (s : Style) (rule : String) (anchor : Anchor) : Entry :=
  match s.entry? none anchor, s.entry? (some rule) anchor with
  | none, none => {}
  | some general, none => general
  | none, some own => own
  | some general, some own => own.within general

/-- What becomes of an item with this label and this literal text, in a rule:
as its label says, or else as its text says. -/
def treatment (s : Style) (rule : String) (label literal : Option String) : Treatment :=
  let look (selector : Option Selector) : Option Treatment :=
    selector.bind fun selector => (s.entryAt rule ⟨.before, selector⟩).treatment
  (look (label.map .label) <|> look (literal.map .literal)).getD .normal

end Style

end Reprint
