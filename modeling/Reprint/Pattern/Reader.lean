import Reprint.Pattern.Lexeme

/-!
# From text to an expression

Groups nest, bars part branches, and a repetition mark takes the part before
it.  Settings hold from where they are changed to the end of the group, also
across bars.  A pattern that is nested too deeply is refused.
-/

namespace Reprint.Pattern

/-- An expression and how deeply its writing is nested. -/
structure Part where
  expr : Expr
  depth : Nat
  /-- A change of settings is a part that cannot be repeated. -/
  repeatable : Bool := true

namespace Part

/-- How deeply parts are nested that make one part together: more than one of
them are a level of their own. -/
def depthOf (parts : List Part) : Nat :=
  let depth := (parts.map (·.depth)).foldl max 0
  if parts.length ≤ 1 then depth else depth + 1

end Part

/-- An open group. -/
structure Group where
  mode : Mode
  /-- Whether its match is kept. -/
  kept : Bool
  /-- The finished branches, last first. -/
  branches : List Part := []
  /-- The parts of the current branch, last first. -/
  parts : List Part := []

namespace Group

def add (g : Group) (p : Part) : Group := { g with parts := p :: g.parts }

/-- The current branch. -/
def branch (g : Group) : Part :=
  { expr := .cats (g.parts.reverse.map (·.expr)), depth := Part.depthOf g.parts }

/-- Starts another branch. -/
def bar (g : Group) : Group := { g with branches := g.branch :: g.branches, parts := [] }

/-- What stands in the group. -/
def inner (g : Group) : Part :=
  let branches := g.branch :: g.branches
  { expr := .alts (branches.reverse.map (·.expr)), depth := Part.depthOf branches }

/-- The group as a part of the one around it. -/
def close (g : Group) : Part :=
  let inner := g.inner
  { expr := if g.kept then .capture inner.expr else inner.expr, depth := inner.depth + 1 }

/-- Repeats the last part. -/
def repeated? (g : Group) (least : Nat) (most : Option Nat) (greedy : Bool) : Option Group :=
  match g.parts with
  | part :: parts =>
    if part.repeatable then
      let part := { expr := part.expr.repeated least most greedy, depth := part.depth + 1 }
      some { g with parts := part :: parts }
    else none
  | [] => none

/-- Changes the settings for the rest of the group. -/
def change (g : Group) (changes : List (Flag × Bool)) : Group :=
  { g.add { expr := .empty, depth := 0, repeatable := false } with mode := g.mode.changes changes }

end Group

/-- A pattern that is being read: the open groups and the names of groups so far. -/
structure Reading where
  /-- The groups around the innermost one, which is `group`. -/
  outer : List Group := []
  group : Group
  names : List String := []

namespace Reading

/-- Opens a group. -/
def opened (r : Reading) (mode : Mode) (kept : Bool) : Reading :=
  { r with outer := r.group :: r.outer, group := { mode, kept } }

/-- Takes a lexeme. -/
def lexeme? (r : Reading) : Lexeme → Option Reading
  | .part expr depth => some { r with group := r.group.add { expr, depth } }
  | .rounds least most greedy =>
    (r.group.repeated? least most greedy).map fun group => { r with group }
  | .bar => some { r with group := r.group.bar }
  | .change changes => some { r with group := r.group.change changes }
  | .opening none => some (r.opened r.group.mode true)
  | .opening (some name) =>
    if r.names.contains name then none
    else some { r.opened r.group.mode true with names := name :: r.names }
  | .openingWith changes => some (r.opened (r.group.mode.changes changes) false)
  | .closing =>
    match r.outer with
    | [] => none
    | around :: outer => some { r with outer, group := around.add r.group.close }

/-- How deeply a pattern may be nested. -/
def depthLimit : Nat := 250

/-- The expression of a pattern that has been read to its end. -/
def finish? (r : Reading) : Option Expr :=
  let whole := r.group.inner
  if r.outer.isEmpty && whole.depth ≤ depthLimit then some whole.expr else none

/-- The expression of a pattern, given the rest of its text. -/
def rest? (r : Reading) (cs : List Char) : Option Expr :=
  match r.group.mode.skip cs with
  | [] => r.finish?
  | c :: text =>
    match Lexeme.first? r.group.mode (c :: text) with
    | none => none
    | some (lexeme, rest) =>
      if rest.length < cs.length then (r.lexeme? lexeme).bind fun r => r.rest? rest else none
termination_by cs.length

end Reading

/-- The expression that a text stands for, if it is well formed. -/
def Expr.read? (cs : List Char) : Option Expr :=
  Reading.rest? { group := { mode := {}, kept := false } } cs

end Reprint.Pattern
