import Reprint.Text.Word

/-!
# Pattern expressions

What a pattern means, apart from how it is written: texts, sets of characters,
conditions on a place, choice with the first branch preferred, and repetition
that prefers more or fewer rounds.  Expressions are built in a normal form:
neighbouring texts are one, a choice of characters is a set, and what all
branches of a choice begin with stands before it.
-/

namespace Reprint.Pattern

open Text (Ranges)

/-! ## Conditions on a place -/

/-- Where a place stands in a word. -/
inductive WordPlace where
  | edge
  | noEdge
  | start
  | stop
  | startHalf
  | stopHalf
  deriving DecidableEq, Repr, Inhabited

/-- Whether a place between two characters is so, given which of them are in a word. -/
def WordPlace.holds (before after : Bool) : WordPlace → Bool
  | .edge => before != after
  | .noEdge => before == after
  | .start => !before && after
  | .stop => before && !after
  | .startHalf => !before
  | .stopHalf => !after

/-- A condition on the characters beside a place. -/
inductive Look where
  | start
  | stop
  /-- The start of a line; `pairs` says that `\r`, `\n` and the two together end lines. -/
  | lineStart (pairs : Bool)
  | lineStop (pairs : Bool)
  /-- A place in a word; `ascii` says that words are of the first 128 characters only. -/
  | word (ascii : Bool) (place : WordPlace)
  deriving DecidableEq, Repr, Inhabited

/-- Whether a condition holds between two characters, either of which may be missing. -/
def Look.holds (before after : Option Char) : Look → Bool
  | .start => before.isNone
  | .stop => after.isNone
  | .lineStart false => before.all (· == '\n')
  | .lineStart true => before.all fun c => c == '\n' || (c == '\r' && after != some '\n')
  | .lineStop false => after.all (· == '\n')
  | .lineStop true => after.all fun c => c == '\r' || (c == '\n' && before != some '\r')
  | .word ascii place =>
    let isWord := if ascii then Text.isAsciiWord else Text.isWord
    place.holds (before.any isWord) (after.any isWord)

/-! ## Expressions -/

/-- A pattern expression. -/
inductive Expr where
  | empty
  /-- The characters of a text one after the other. -/
  | literal (text : List Char)
  /-- One character of a set. -/
  | set (s : Ranges)
  | look (l : Look)
  | cat (a b : Expr)
  /-- Either branch, the first one preferred. -/
  | alt (a b : Expr)
  /-- At least `least` and at most `most` rounds; more are preferred if `greedy`. -/
  | rounds (e : Expr) (least : Nat) (most : Option Nat) (greedy : Bool)
  /-- A group whose match is kept. -/
  | capture (e : Expr)
  deriving DecidableEq, Repr, Inhabited

namespace Expr

/-- Whether every match takes at least one character. -/
def consumes : Expr → Bool
  | .empty | .look _ => false
  | .literal text => !text.isEmpty
  | .set _ => true
  | .cat a b => a.consumes || b.consumes
  | .alt a b => a.consumes && b.consumes
  | .rounds e least _ _ => least != 0 && e.consumes
  | .capture e => e.consumes

/-- Whether no match takes a character. -/
def isWidthless : Expr → Bool
  | .empty | .look _ => true
  | .literal text => text.isEmpty
  | .set _ => false
  | .cat a b | .alt a b => a.isWidthless && b.isWidthless
  | .rounds e _ _ _ | .capture e => e.isWidthless

/-! ### Normal forms -/

/-- One character of a set. -/
def ofSet (s : Ranges) : Expr :=
  match s with
  | [(low, high)] => if low == high then .literal [.ofNat low] else .set s
  | _ => .set s

/-- The parts of an expression that stand one after the other. -/
def items : Expr → List Expr
  | .empty => []
  | .cat a b => a.items ++ b.items
  | e => [e]

/-- The branches of a choice. -/
def branches : Expr → List Expr
  | .alt a b => a.branches ++ b.branches
  | e => [e]

/-- A part in front of others; texts that meet become one. -/
def consItem : Expr → List Expr → List Expr
  | .literal s, .literal t :: es => .literal (s ++ t) :: es
  | e, es => e :: es

/-- Parts one after the other. -/
def inRow : List Expr → Expr
  | [] => .empty
  | [e] => e
  | e :: es => .cat e (inRow es)

/-- Expressions one after the other. -/
def cats (es : List Expr) : Expr := inRow ((es.flatMap items).foldr consItem [])

/-- A choice between branches. -/
def oneOf : List Expr → Expr
  | [] => .set []
  | [e] => e
  | e :: es => .alt e (oneOf es)

/-- The one character that an expression stands for. -/
def char? : Expr → Option Char
  | .literal [c] => some c
  | _ => none

/-- The set of which an expression takes a character. -/
def set? : Expr → Option Ranges
  | .set s => some s
  | _ => none

/-- The text that an expression stands for. -/
def text? : Expr → Option (List Char)
  | .literal text => some text
  | _ => none

/-- The set that branches come to if all are single characters or all are sets. -/
def setOf? (es : List Expr) : Option Ranges :=
  ((es.mapM char?).map fun cs => .ofList (cs.map fun c => (c.toNat, c.toNat)))
    <|> (es.mapM set?).map Ranges.unions

/-- What all rows begin with. -/
def commonStart : List (List Expr) → List Expr
  | [] => []
  | row :: rows =>
    rows.foldl
      (fun start row => ((start.zip row).takeWhile fun (e, e') => e == e').map (·.1)) row

/-- A choice between expressions; the first ones are preferred. -/
def alts (es : List Expr) : Expr :=
  let es := es.flatMap branches
  let rows := es.map items
  let start := commonStart rows
  match setOf? es with
  | some s => ofSet s
  | none =>
    if es.length ≤ 1 || start.isEmpty || rows.any (·.length ≤ 1) then oneOf es
    else
      let rest := (rows.map fun row => inRow (row.drop start.length)).flatMap branches
      cats (start ++ [((setOf? rest).map ofSet).getD (oneOf rest)])

/-- A repetition.  Rounds that take nothing need no second one. -/
def repeated (e : Expr) (least : Nat) (most : Option Nat) (greedy : Bool) : Expr :=
  let (least, most) :=
    if e.isWidthless then (min least 1, some (min 1 (most.getD 1))) else (least, most)
  if most == some 0 then .empty
  else if least == 1 && most == some 1 then e
  else .rounds e least most greedy

end Expr

end Reprint.Pattern
