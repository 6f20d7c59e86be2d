/-!
# Anchors

An anchor is a place beside an item or at an end of a rule: the side, and what
is selected.  It is written with colons between its parts, as in
`before:label:operator`; at the ends of a rule the last part is empty.
-/

namespace Reprint

/-- The side of what is selected. -/
inductive Side where
  | before
  | after
  deriving DecidableEq, Repr, Inhabited

namespace Side

def word : Side → String
  | .before => "before"
  | .after => "after"

def other : Side → Side
  | .before => .after
  | .after => .before

end Side

/-- What an anchor selects.  At the ends of a rule there is no text.  A key for such an end
with a text beside it could be put together by hand, but no sheet and no written form gives
one and nothing is ever looked up by it, so it has no place here. -/
inductive Selector where
  /-- Items with this label. -/
  | label (name : String)
  /-- Literal items with this text. -/
  | literal (text : String)
  | ruleStart
  | ruleEnd
  deriving DecidableEq, Repr, Inhabited

namespace Selector

/-- The kind of selector in the written form. -/
def kind : Selector → String
  | .label _ => "label"
  | .literal _ => "literal"
  | .ruleStart => "rule_start"
  | .ruleEnd => "rule_end"

/-- The last part of the written form. -/
def value : Selector → String
  | .label name => name
  | .literal text => text
  | .ruleStart | .ruleEnd => ""

/-- A selector by its kind and the last part of its written form, which is
empty at the ends of a rule and only there. -/
def ofParts? (kind value : List Char) : Option Selector :=
  if kind = "label".toList then if value.isEmpty then none else some (.label (.ofList value))
  else if kind = "literal".toList then
    if value.isEmpty then none else some (.literal (.ofList value))
  else if kind = "rule_start".toList then if value.isEmpty then some .ruleStart else none
  else if kind = "rule_end".toList then if value.isEmpty then some .ruleEnd else none
  else none

end Selector

/-- A place that style directives are attached to. -/
structure Anchor where
  side : Side
  selector : Selector
  deriving DecidableEq, Repr, Inhabited

namespace Anchor

/-- The written form. -/
def text (a : Anchor) : String := a.side.word ++ ":" ++ a.selector.kind ++ ":" ++ a.selector.value

/-- The same selector on the other side. -/
def flip (a : Anchor) : Anchor := { a with side := a.side.other }

/-- What stands before the first colon and behind it. -/
def cut? : List Char → Option (List Char × List Char)
  | [] => none
  | c :: cs => if c = ':' then some ([], cs) else (cut? cs).map fun (a, b) => (c :: a, b)

def sideOf? (word : List Char) : Option Side :=
  if word = "before".toList then some .before
  else if word = "after".toList then some .after
  else none

/-- The anchor that is written as `s`. -/
def ofText? (s : String) : Option Anchor := do
  let (side, rest) ← cut? s.toList
  let (kind, value) ← cut? rest
  let side ← sideOf? side
  let selector ← Selector.ofParts? kind value
  return { side, selector }

/-- What is said about a text that is no anchor. -/
def invalidMessage (s : String) : String := "invalid anchor key `" ++ s ++ "`"

end Anchor

end Reprint
