import Reprint.Text.Blank
import Reprint.Text.Fold
import Reprint.Text.Word
import Reprint.Pattern.Expr

/-!
# Settings of a pattern

Settings hold from where they are changed to the end of the group.  They say how
the pattern is written, and what its sets and conditions mean.
-/

namespace Reprint.Pattern

open Text (Ranges)

/-- Settings that a pattern can change within a group. -/
inductive Flag where
  /-- `i`: case does not matter. -/
  | fold
  /-- `m`: `^` and `$` hold at every line. -/
  | lines
  /-- `s`: the dot takes line ends too. -/
  | dotAll
  /-- `R`: a carriage return ends lines too. -/
  | pairs
  /-- `U`: repetitions prefer fewer rounds. -/
  | swapGreed
  /-- `u`: sets are of the characters of all scripts. -/
  | scripts
  /-- `x`: blanks and comments in the pattern do not count. -/
  | spaced
  deriving DecidableEq, Repr, Inhabited

def Flag.ofChar? : Char → Option Flag
  | 'i' => some .fold
  | 'm' => some .lines
  | 's' => some .dotAll
  | 'R' => some .pairs
  | 'U' => some .swapGreed
  | 'u' => some .scripts
  | 'x' => some .spaced
  | _ => none

/-- The settings in force at a place of a pattern. -/
structure Mode where
  fold : Bool := false
  lines : Bool := false
  dotAll : Bool := false
  pairs : Bool := false
  swapGreed : Bool := false
  scripts : Bool := true
  spaced : Bool := false
  deriving Repr, Inhabited

namespace Mode

def change (m : Mode) : Flag × Bool → Mode
  | (.fold, on) => { m with fold := on }
  | (.lines, on) => { m with lines := on }
  | (.dotAll, on) => { m with dotAll := on }
  | (.pairs, on) => { m with pairs := on }
  | (.swapGreed, on) => { m with swapGreed := on }
  | (.scripts, on) => { m with scripts := on }
  | (.spaced, on) => { m with spaced := on }

def changes (m : Mode) (cs : List (Flag × Bool)) : Mode := cs.foldl change m

/-! ## Gaps -/

/-- The text behind the characters for which `p` holds, and these characters.
In spaced patterns the blanks and comments around each of them are passed over;
`comment` says that the text starts in a comment, which ends with its line. -/
def spanFrom (m : Mode) (p : Char → Bool) (comment : Bool) : List Char → List Char × List Char
  | [] => ([], [])
  | c :: cs =>
    if comment then m.spanFrom p (c != '\n') cs
    else if m.spaced && Text.isBlank c then m.spanFrom p false cs
    else if m.spaced && c == '#' then m.spanFrom p true cs
    else if p c then
      let (taken, rest) := m.spanFrom p false cs
      (c :: taken, rest)
    else ([], c :: cs)

/-- The longest front of a text for which `p` holds, and the rest; both without gaps. -/
def span (m : Mode) (p : Char → Bool) (cs : List Char) : List Char × List Char :=
  m.spanFrom p false cs

/-- The text behind a gap. -/
def skip (m : Mode) (cs : List Char) : List Char := (m.span (fun _ => false) cs).2

/-- The next character behind the first one, which decides whether a hyphen
makes a range.  Of a comment, only its mark is passed over. -/
def peek (m : Mode) (cs : List Char) : Option Char :=
  if m.spaced then
    match cs.dropWhile Text.isBlank with
    | '#' :: cs => (cs.dropWhile Text.isBlank).head?
    | cs => cs.head?
  else cs.head?

/-- So many characters without the gaps before them, and the rest. -/
def taken? (m : Mode) : Nat → List Char → Option (List Char × List Char)
  | 0, cs => some ([], cs)
  | n + 1, cs =>
    match m.skip cs with
    | [] => none
    | c :: cs => (m.taken? n cs).map fun (taken, rest) => (c :: taken, rest)

/-! ## Sets and conditions -/

/-- A set with the other cases of its letters, if case does not matter. -/
def widen (m : Mode) (s : Ranges) : Ranges :=
  if !m.fold then s else if m.scripts then s.foldCase else s.foldAscii

/-- The complement of a set if `negated`.  Among the first 128 characters only,
there is none. -/
def negate? (m : Mode) (negated : Bool) (s : Ranges) : Option Ranges :=
  if !negated then some s else if m.scripts then some s.compl else none

/-- A single character.  Without the characters of all scripts, a number of two
digits stands for a byte, and there are none beyond the first 128. -/
def char? (m : Mode) (c : Char) (byte : Bool) : Option Expr :=
  if byte && !m.scripts && 128 ≤ c.toNat then none
  else some (.ofSet (m.widen (.single c.toNat)))

/-- The characters that the dot takes. -/
def dot? (m : Mode) : Option Expr :=
  if !m.scripts then none
  else if m.dotAll then some (.set [(0, Ranges.last)])
  else some (.set (Ranges.compl (if m.pairs then [(10, 10), (13, 13)] else [(10, 10)])))

def caret (m : Mode) : Expr := .look (if m.lines then .lineStart m.pairs else .start)

def dollar (m : Mode) : Expr := .look (if m.lines then .lineStop m.pairs else .stop)

end Mode

end Reprint.Pattern
