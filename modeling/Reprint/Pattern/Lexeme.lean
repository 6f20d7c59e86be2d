import Reprint.Pattern.Brackets
import Reprint.Text.Printable

/-!
# How patterns are written

The text of a pattern is a row of lexemes: parts that match by themselves,
repetition marks, bars and parentheses.  Text that is none of these is
malformed.
-/

namespace Reprint.Pattern

/-- The smallest parts of a pattern. -/
inductive Lexeme where
  /-- What matches by itself, and how deeply its writing is nested. -/
  | part (e : Expr) (depth : Nat)
  | rounds (least : Nat) (most : Option Nat) (greedy : Bool)
  | bar
  /-- The start of a group, with its name if it has one. -/
  | opening (name : Option String)
  /-- The start of a group with changed settings. -/
  | openingWith (changes : List (Flag × Bool))
  /-- Changed settings for the rest of the group around. -/
  | change (changes : List (Flag × Bool))
  | closing
  deriving Repr, Inhabited

namespace Lexeme

/-! ## Repetition marks -/

/-- The number of a repetition, which may stand between blanks and has to fit a word. -/
def count? (m : Mode) (cs : List Char) : Option (Nat × List Char) :=
  let (digits, rest) := m.span Char.isDigit (cs.dropWhile Text.isBlank)
  let value := digits.foldl (fun n c => 10 * n + (c.toNat - '0'.toNat)) 0
  if digits.isEmpty || UInt32.size ≤ value then none
  else some (value, rest.dropWhile Text.isBlank)

/-- A repetition mark with the question mark that may follow it. -/
def marked (m : Mode) (least : Nat) (most : Option Nat) : List Char → Lexeme × List Char
  | '?' :: cs => (.rounds least most m.swapGreed, cs)
  | cs => (.rounds least most (!m.swapGreed), cs)

/-- A repetition in braces, behind the opening one. -/
def counted? (m : Mode) (cs : List Char) : Option (Lexeme × List Char) := do
  let (least, cs) ← count? m (m.skip cs)
  match cs with
  | '\x7d' :: cs => return marked m least (some least) (m.skip cs)
  | ',' :: cs =>
    match m.skip cs with
    | '\x7d' :: cs => return marked m least none (m.skip cs)
    | cs =>
      let (most, cs) ← count? m cs
      match cs with
      | '\x7d' :: cs =>
        if least ≤ most then return marked m least (some most) (m.skip cs) else none
      | _ => none
  | _ => none

/-! ## Groups -/

/-- The settings named between `(?` and the end of the list.  Each is named at
most once; those behind the hyphen are switched off. -/
def flags? (on : Bool) (seen : List Flag) : List Char → Option (List (Flag × Bool))
  | [] => some []
  | '-' :: cs => if on && !cs.isEmpty then flags? false seen cs else none
  | c :: cs => do
    let flag ← Flag.ofChar? c
    if seen.contains flag then none
    else (flags? on (flag :: seen) cs).map ((flag, on) :: ·)

/-- Whether a character may stand in the name of a group, behind its first one. -/
def isNameChar (c : Char) : Bool :=
  c == '_' || c == '.' || c == '[' || c == ']' || Text.isAlphabetic c || Text.isNumeric c

/-- A group's name up to the closing angle bracket. -/
def groupName? (cs : List Char) : Option (Lexeme × List Char) :=
  match cs.takeWhile (· != '>'), cs.dropWhile (· != '>') with
  | c :: name, _ :: rest =>
    if (c == '_' || Text.isAlphabetic c) && name.all isNameChar then
      some (.opening (some (String.ofList (c :: name))), rest)
    else none
  | _, _ => none

/-- A group or a change of settings, behind the opening parenthesis. -/
def group? : List Char → Option (Lexeme × List Char)
  | '?' :: 'P' :: '<' :: cs => groupName? cs
  | '?' :: '<' :: cs => groupName? cs
  | '?' :: cs =>
    let isEnd (c : Char) : Bool := c == ':' || c == ')'
    match flags? true [] (cs.takeWhile (!isEnd ·)), cs.dropWhile (!isEnd ·) with
    | some changes, ':' :: rest => some (.openingWith changes, rest)
    | some changes, ')' :: rest => if changes.isEmpty then none else some (.change changes, rest)
    | _, _ => none
  | cs => some (.opening none, cs)

/-! ## The first lexeme -/

/-- A part that is not nested. -/
def flat (rest : List Char) (e : Expr) : Lexeme × List Char := (.part e 0, rest)

/-- The first lexeme of a pattern that does not begin with a gap. -/
def first? (m : Mode) : List Char → Option (Lexeme × List Char)
  | [] => none
  | '(' :: cs => group? (m.skip cs)
  | ')' :: cs => some (.closing, cs)
  | '|' :: cs => some (.bar, cs)
  | '[' :: cs =>
    (Brackets.read? m cs).map fun (operand, rest) =>
      (.part (.ofSet operand.set) operand.depth, rest)
  | '?' :: cs => some (marked m 0 (some 1) cs)
  | '*' :: cs => some (marked m 0 none cs)
  | '+' :: cs => some (marked m 1 none cs)
  | '\x7b' :: cs => counted? m cs
  | '\\' :: cs => do
    let (escape, rest) ← Escape.read? m cs
    match escape with
    | .literal c byte => (m.char? c byte).map (flat rest)
    | .look l => return flat rest (.look l)
    | .set s => return flat rest (.ofSet s)
  | '.' :: cs => m.dot?.map (flat cs)
  | '^' :: cs => some (flat cs m.caret)
  | '$' :: cs => some (flat cs m.dollar)
  | c :: cs => (m.char? c false).map (flat cs)

end Lexeme

end Reprint.Pattern
