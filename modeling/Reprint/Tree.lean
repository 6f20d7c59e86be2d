import Reprint.Grammar.Basic
import Reprint.Span
import Reprint.Text.Quoted

/-!
# Concrete trees

A tree has a node for each rule that matched.  The children of a node stand in
the order of the source; groups and repetitions leave no node of their own, so
the children can be read along a production of the rule.
-/

namespace Reprint

/-- A rule that matched, with its children. -/
structure Node (γ : Type) where
  /-- The place of the rule in the table of the grammar. -/
  rule : Nat
  span : Span
  children : List γ
  deriving Inhabited

/-- A child of a node, under the label of the item that matched it. -/
inductive Child where
  /-- A literal or a pattern. -/
  | token (label : Option String) (span : Span)
  /-- A rule that an item refers to. -/
  | node (label : Option String) (body : Node Child)
  /-- What stood in a slot. -/
  | trivia (label : Option String) (body : Node Child)
  deriving Inhabited

/-- A concrete tree. -/
abbrev Tree := Node Child

namespace Child

def label : Child → Option String
  | .token label _ | .node label _ | .trivia label _ => label

def span : Child → Span
  | .token _ span => span
  | .node _ body | .trivia _ body => body.span

/-- The tree of what stood in a slot. -/
def trivia? : Child → Option Tree
  | .trivia _ body => some body
  | _ => none

/-- The tree of a rule that an item refers to. -/
def node? : Child → Option Tree
  | .node _ body => some body
  | _ => none

end Child

/-- The text of a tree; none of it if the span does not fit the source. -/
def Tree.text (tree : Tree) (source : String) : String := (tree.span.slice? source).getD ""

/-! ## Outlines -/

section Outline

/-- The front of a line: two columns for each level, then the label. -/
def outlineFront (depth : Nat) (label : Option String) : String :=
  String.ofList (List.replicate (2 * depth) ' ') ++ (label.map (· ++ "=")).getD ""

/-- A span at the end of a line. -/
def outlineSpan (span : Span) : String :=
  "@" ++ toString span.start ++ ".." ++ toString span.stop ++ "\n"

variable (g : Grammar) (source : String)

mutual

/-- A child as lines of an outline. -/
def Child.outline (depth : Nat) : Child → String
  | .token label span =>
    outlineFront depth label ++ Text.quote ((span.slice? source).getD "") ++ outlineSpan span
  | .node label body => outlineFront depth label ++ outlineNode depth body
  | .trivia label body => outlineFront depth label ++ "~" ++ outlineNode depth body
termination_by structural child => child

def outlineNode (depth : Nat) : Node Child → String
  | ⟨rule, span, children⟩ =>
    g.ruleName rule ++ outlineSpan span ++ outlineAll (depth + 1) children
termination_by structural node => node

def outlineAll (depth : Nat) : List Child → String
  | [] => ""
  | child :: rest => Child.outline depth child ++ outlineAll depth rest
termination_by structural children => children

end

/-- A tree as an outline: one line for each node and each token, with its span. -/
def Tree.outline (tree : Tree) : String := outlineNode g source 0 tree

end Outline

end Reprint
