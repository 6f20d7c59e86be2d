import Reprint.Pattern.Expr

/-!
# The size of a pattern

A pattern is refused if the automata over bytes that find its matches and their
starts would take too much room.  The first one reads forward, the second one
backward.  Their size follows from the expression alone.
-/

namespace Reprint.Pattern

open Text (Ranges)

/-- Which way an automaton reads. -/
inductive Direction where
  | forward
  | backward
  deriving DecidableEq, Repr

/-- What an automaton under construction takes: its states, and the bytes of
what they hold beside the room of their own. -/
structure Tally where
  states : Nat := 0
  extra : Nat := 0
  deriving DecidableEq, Repr, Inhabited

namespace Tally

/-- The size in bytes. -/
def size (t : Tally) : Nat := 32 * t.states + t.extra

/-- The greatest size that is allowed. -/
def limit : Nat := 10 * 1024 * 1024

/-- Whether more room is taken than allowed. -/
def isOver (t : Tally) : Bool := limit < t.size

/-- States that go on to one other. -/
def plain (t : Tally) (count : Nat) : Tally := { t with states := t.states + count }

/-- A state that reads bytes of several ranges. -/
def reader (t : Tally) (ranges : Nat) : Tally := ⟨t.states + 1, t.extra + 8 * ranges⟩

/-- Some of several states that a state goes on to. -/
def links (t : Tally) (count : Nat) : Tally := { t with extra := t.extra + 4 * count }

/-- A state that goes on to either of two. -/
def fork (t : Tally) : Tally := (t.plain 1).links 2

/-- So many rounds of a construction, which stops where it is too large. -/
def times (f : Tally → Tally) : Nat → Tally → Tally
  | 0, t => t
  | n + 1, t => if t.isOver then t else times f n (f t)

end Tally

/-! ## Sets -/

/-- The ranges that each byte of a character lies in. -/
abbrev ByteRow := List (Nat × Nat)

/-- The numbers from `low` to `high` in base 64, as rows of ranges for each
digit.  `digits` of them follow the first one, which is marked by `mark`. -/
def digitRows : (digits mark low high : Nat) → List ByteRow
  | 0, mark, low, high => [[(mark + low, mark + high)]]
  | digits + 1, mark, low, high =>
    let unit := Nat.pow 64 (digits + 1)
    let under (first low high : Nat) : List ByteRow :=
      (digitRows digits 0x80 low high).map ((mark + first, mark + first) :: ·)
    let (first, last) := (low / unit, high / unit)
    if first == last then under first (low % unit) (high % unit)
    else
      let cutLow := low % unit != 0
      let cutHigh := high % unit != unit - 1
      let (from', to') := (if cutLow then first + 1 else first, if cutHigh then last else last + 1)
      (if cutLow then under first (low % unit) (unit - 1) else [])
        ++ (if from' < to' then
            [(mark + from', mark + to' - 1) :: List.replicate (digits + 1) (0x80, 0xbf)] else [])
        ++ (if cutHigh then under last 0 (high % unit) else [])

/-- The rows of bytes of the characters of a set, in order. -/
def byteRows (s : Ranges) : List ByteRow :=
  s.flatMap fun (low, high) =>
    [(0, 0x7f, 0, 0), (0x80, 0x7ff, 1, 0xc0), (0x800, 0xd7ff, 2, 0xe0), (0xe000, 0xffff, 2, 0xe0),
      (0x10000, 0x10ffff, 3, 0xf0)].flatMap fun (least, most, digits, mark) =>
      if max low least ≤ min high most then digitRows digits mark (max low least) (min high most)
      else []

/-- Rows with the same first range together. -/
def byFirst (rows : List ByteRow) : List (List ByteRow) :=
  rows.splitBy fun row row' => row.head? == row'.head?

/-- All that can follow a number of bytes, for each front that the rows have;
`depth` is at least the length of a row. -/
def continuations : (depth : Nat) → List ByteRow → List (List ByteRow)
  | 0, _ => []
  | depth + 1, rows =>
    if rows.all List.isEmpty then []
    else rows :: (byFirst rows).flatMap fun group => continuations depth (group.map List.tail)

/-- A state that has been made: the state it goes on to, and the bytes it reads. -/
abbrev Step := Nat × Nat × Nat

/-- The number of places for steps. -/
def stepPlaces : Nat := 1000

/-- The place of a step among the others, of which each place holds the last one. -/
def Step.slot : Step → Nat
  | (next, low, high) =>
    let mix (h : UInt64) (n : Nat) : UInt64 := (h ^^^ n.toUInt64) * 1099511628211
    (mix (mix (mix 14695981039346656037 next) low) high).toNat % stepPlaces

/-- Steps that have been made, with the states they start from. -/
abbrev Steps := Array (Option (Step × Nat))

/-- The steps and states after a row of bytes, the first of which stands before
the state `next`.  A step that is still in its place is not made again. -/
def rowSteps (steps : Steps) (next states : Nat) : ByteRow → Steps × Nat
  | [] => (steps, states)
  | (low, high) :: row =>
    let step : Step := (next, low, high)
    match (steps[step.slot]?).join with
    | some (known, state) =>
      if known == step then rowSteps steps state states row
      else rowSteps (steps.setIfInBounds step.slot (step, states)) states (states + 1) row
    | none => rowSteps (steps.setIfInBounds step.slot (step, states)) states (states + 1) row

/-- One character of a set. -/
def setTally (d : Direction) (s : Ranges) (t : Tally) : Tally :=
  if s.all (·.2 < 128) then (t.plain 1).reader s.length
  else
    let rows := byteRows s
    match d with
    | .forward =>
      (continuations 4 rows).eraseDups.foldl (fun t rows => t.reader (byFirst rows).length)
        (t.plain 1)
    | .backward =>
      let start := (t.plain 2).links rows.length
      let (_, states) := rows.foldl
        (fun (steps, states) row => rowSteps steps (t.states + 1) states row)
        (Array.replicate stepPlaces none, start.states)
      { start with states }

/-! ## Texts -/

/-- The bytes of a character. -/
def charBytes (c : Char) : List Nat := (String.utf8EncodeChar c).map UInt8.toNat

/-- The bytes of a text in the order in which they are read. -/
def textBytes (d : Direction) (text : List Char) : List Nat :=
  let bytes := text.flatMap charBytes
  match d with
  | .forward => bytes
  | .backward => bytes.reverse

/-- The rows of words between those that are empty. -/
def wordRows (words : List (List Nat)) : List (List (List Nat)) :=
  words.foldr
    (fun word rows =>
      match word, rows with
      | [], rows => [] :: rows
      | word, row :: rows => (word :: row) :: rows
      | word, [] => [[word]])
    [[]]

/-- A tree of words in order of preference, of which the empty ones may end;
`depth` is greater than the length of a word. -/
def treeTally : (depth : Nat) → List (List Nat) → Tally → Tally
  | 0, _, t => t
  | depth + 1, words, t =>
    let ends := (if words.head?.any List.isEmpty then 1 else 0)
      + ((words.dropWhile List.isEmpty).filter List.isEmpty).length
    let rows := (wordRows words).filter (!List.isEmpty ·)
    let rowTally (t : Tally) (row : List (List Nat)) : Tally :=
      let firsts := (row.filterMap List.head?).eraseDups
      let below (t : Tally) (first : Nat) : Tally :=
        let rest := (row.filter (·.head? == some first)).map List.tail
        if rest.all List.isEmpty then t else treeTally depth rest t
      firsts.foldl below (t.reader (if firsts.length == 1 then 0 else firsts.length))
    rows.foldl rowTally ((t.plain 1).links (rows.length + ends))

/-- A choice between texts. -/
def textsTally (d : Direction) (texts : List (List Char)) (t : Tally) : Tally :=
  let words := texts.map (textBytes d)
  treeTally ((words.map List.length).foldl max 0 + 1) words (t.plain 1)

/-! ## Expressions -/

namespace Expr

/-- Whether a match can start only where the text does. -/
def startsText : Expr → Bool
  | .look l => l == .start
  | .empty | .literal _ | .set _ => false
  | .cat a b => a.startsText || (a.isWidthless && b.startsText)
  | .alt a b => a.startsText && b.startsText
  | .rounds e least _ _ => least != 0 && e.startsText
  | .capture e => e.startsText

/-- Whether a match can stop only where the text does. -/
def stopsText : Expr → Bool
  | .look l => l == .stop
  | .empty | .literal _ | .set _ => false
  | .cat a b => b.stopsText || (b.isWidthless && a.stopsText)
  | .alt a b => a.stopsText && b.stopsText
  | .rounds e least _ _ => least != 0 && e.stopsText
  | .capture e => e.stopsText

/-- A repetition, given how a round is made. -/
def roundsTally (round : Tally → Tally) (consumes : Bool) :
    (least : Nat) → (most : Option Nat) → Tally → Tally
  | 0, some 1, t => (round t.fork).plain 1
  | 0, none, t => if consumes then round t.fork else (round t).fork.fork.plain 1
  | least, none, t => (t.times round least).fork
  | least, some most, t =>
    let t := if least == 0 then t.plain 1 else t.times round least
    if least == most then t else (t.plain 1).times (fun t => round t.fork) (most - least)

/-- Where an expression stands in a choice. -/
inductive Branch where
  /-- It is no part of a choice, or the first branch. -/
  | first
  /-- It is the second branch, or all from the second one on. -/
  | second
  /-- It is a later branch, or all from that one on. -/
  | later

/-- What the choice takes behind a branch: the state in front goes on to each of
them, and it and the state behind are made after the second one. -/
def Branch.joined : Branch → Tally → Tally
  | .first, t => t
  | .second, t => (t.links 2).plain 2
  | .later, t => t.links 1

/-- The states of an expression, behind those made before. -/
def tally (d : Direction) : Branch → Expr → Tally → Tally
  | place, .empty, t | place, .look _, t => place.joined (t.plain 1)
  | place, .literal text, t => place.joined (t.plain (textBytes d text).length)
  | place, .set s, t => place.joined (setTally d s t)
  | place, .cat a b, t =>
    place.joined <| match d with
      | .forward => b.tally d .first (a.tally d .first t)
      | .backward => a.tally d .first (b.tally d .first t)
  | .first, .alt a b, t =>
    match (Expr.alt a b).branches.mapM text? with
    | some texts => textsTally d texts t
    | none => b.tally d .second (a.tally d .first t)
  | place, .alt a b, t => b.tally d .later (place.joined (a.tally d .first t))
  | place, .rounds e least most _, t =>
    place.joined (roundsTally (e.tally d .first) e.consumes least most t)
  | place, .capture e, t =>
    place.joined <| match d with
      | .forward => (e.tally d .first (t.plain 1)).plain 1
      | .backward => e.tally d .first t

/-- The states in front that pass over text before a match. -/
def frontTally (anchored : Bool) : Tally :=
  if anchored then ({} : Tally).plain 1 else (({} : Tally).fork.plain 1).reader 1

/-- The automaton that reads forward, which keeps the place of the whole match. -/
def forwardTally (e : Expr) : Tally :=
  (e.capture.tally .forward .first (frontTally e.startsText)).plain 1

/-- The automaton that reads backward. -/
def backwardTally (e : Expr) : Tally :=
  (e.tally .backward .first (frontTally e.stopsText)).plain 1

/-- Whether neither automaton of an expression is too large. -/
def fits (e : Expr) : Bool := !e.forwardTally.isOver && !e.backwardTally.isOver

end Expr

end Reprint.Pattern
