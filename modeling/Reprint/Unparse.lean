import Reprint.Doc.Resolve
import Reprint.Unparse.Walk

/-!
# From trees to documents

An unparser takes the trees of one grammar back to documents in one style.  It
is made only if the grammar and the style go together, so that what can go wrong
later depends on the tree.
-/

namespace Reprint

/-! ## Making an unparser -/

/-- Why a grammar and a style do not go together. -/
inductive SetupError where
  /-- The text of a suppressed item does not follow from the grammar. -/
  | notRegenerable (rule item : String)
  /-- An anchor was given two treatments in one scope. -/
  | duplicateTreatment (scope : Scope) (anchor : Anchor)
  deriving DecidableEq, Repr, Inhabited

def SetupError.message : SetupError → String
  | .notRegenerable rule item =>
    "rule `" ++ rule ++ "`: required item " ++ item
      ++ " is suppressed from the CST and cannot be regenerated"
  | .duplicateTreatment (some rule) anchor =>
    "rule `" ++ rule ++ "`: more than one disposition for `" ++ anchor.text ++ "`"
  | .duplicateTreatment none anchor => "more than one disposition for `" ++ anchor.text ++ "`"

/-- A grammar and a style that go together. -/
structure Unparser where
  grammar : Grammar
  style : Style
  deriving Inhabited

/-- Checks that a grammar and a style go together. -/
def Unparser.make (grammar : Grammar) (style : Style) : Except SetupError Unparser :=
  match style.conflicts with
  | (scope, anchor) :: _ => .error (.duplicateTreatment scope anchor)
  | [] =>
    match grammar.lost? with
    | some (rule, item) => .error (.notRegenerable rule (grammar.describe item))
    | none => .ok { grammar, style }

/-! ## Unparsing -/

/-- Why a tree could not be taken back. -/
inductive UnparseError where
  | unknownRule (name : String)
  /-- The tree does not fit the rule. -/
  | mismatch (rule : String)
  | nesting (e : NestingError)
  deriving DecidableEq, Repr, Inhabited

def UnparseError.message : UnparseError → String
  | .unknownRule name => "unknown rule `" ++ name ++ "`"
  | .mismatch rule => "syntax tree does not match any alternative of rule `" ++ rule ++ "`"
  | .nesting e => e.message

namespace Unparser

/-- The document of a tree with its decisions still open.  There is no answer if the
walk comes upon a rule that the grammar's table does not have. -/
def raw? (u : Unparser) (rule : String) (tree : Tree) (source : String) :
    Option (Except UnparseError Doc) :=
  match u.grammar.ruleId? rule with
  | none => some (.error (.unknownRule rule))
  | some id =>
    if tree.rule ≠ id then some (.error (.mismatch rule))
    else
      match Unparse.Walk.node ⟨u.grammar, u.style, source⟩ tree false with
      | .astray _ => none
      | .broken e => some (.error (.nesting e))
      | .misfit => some (.error (.mismatch rule))
      | .fits a => some (a.finish.mapError .nesting)

/-- The document of a tree of the grammar with its decisions still open.  Where `raw?`
has no answer the tree belongs to another grammar, and does not fit. -/
def raw (u : Unparser) (rule : String) (tree : Tree) (source : String) : Except UnparseError Doc :=
  (u.raw? rule tree source).getD (.error (.mismatch rule))

/-- The document of a tree, ready to be laid out. -/
def unparse (u : Unparser) (rule : String) (tree : Tree) (source : String) :
    Except UnparseError Doc :=
  (u.raw rule tree source).map Doc.resolve

end Unparser

end Reprint
