import Reprint.Tree

/-!
# Attempts to match

Matching a part of a grammar at a place either succeeds with a value or fails.
On the way it raises expectations: what was looked for at a place and not found
there.  They are kept in the order in which they came up, also those of
attempts that were given up.
-/

namespace Reprint

/-- A place in a text, with the text from there on. -/
structure Cursor where
  offset : Nat
  rest : List Char
  deriving Inhabited

namespace Cursor

/-- The start of a text. -/
def start (source : String) : Cursor := ⟨0, source.toList⟩

/-- The place so many characters further on. -/
def advance (c : Cursor) (count : Nat) : Cursor :=
  ⟨c.offset + Text.width (c.rest.take count), c.rest.drop count⟩

/-- The span from one place to another. -/
def spanTo (c d : Cursor) : Span := ⟨c.offset, d.offset⟩

end Cursor

/-! ## Expectations -/

/-- What can be looked for. -/
inductive Expected where
  | literal (text : String)
  | pattern (p : Pattern)
  | blanks
  | endOfInput
  deriving Inhabited

/-- What was looked for, in the words of a message. -/
def Expected.shown : Expected → String
  | .literal text => Text.quote text
  | .pattern p => p.shown
  | .blanks => "whitespace"
  | .endOfInput => "end of input"

/-- The rules being matched, innermost first, with the offsets where they started. -/
abbrev RuleStack := List (Nat × Nat)

/-- Something that was looked for and not found. -/
structure Expectation where
  offset : Nat
  what : Expected
  stack : RuleStack
  deriving Inhabited

/-! ## Attempts -/

/-- How an attempt went. -/
structure Attempt (α : Type) where
  raised : List Expectation
  value : Option α

/-- An attempt, unless rules nest too deep for it to end. -/
abbrev Attempted (α : Type) := Option (Attempt α)

namespace Attempted

variable {α β : Type}

/-- Success without looking. -/
def succeed (a : α) : Attempted α := some ⟨[], some a⟩

/-- Failure because something was not found. -/
def miss (e : Expectation) : Attempted α := some ⟨[e], none⟩

/-- Failure without looking. -/
def fail : Attempted α := some ⟨[], none⟩

/-- Goes on with what came of an attempt. -/
def proceed (x : Attempted α) (f : Option α → Attempted β) : Attempted β :=
  x.bind fun a => Option.map (fun b => ⟨a.raised ++ b.raised, b.value⟩) (f a.value)

/-- One attempt and, if it succeeds, another one with its value. -/
def andThen (x : Attempted α) (f : α → Attempted β) : Attempted β :=
  x.proceed fun
    | some v => f v
    | none => fail

/-- One attempt and, if it fails, another one. -/
def orElse (x : Attempted α) (y : Unit → Attempted α) : Attempted α :=
  x.proceed fun
    | some v => succeed v
    | none => y ()

/-- The value of a success changed. -/
def map (f : α → β) (x : Attempted α) : Attempted β :=
  Option.map (fun a => ⟨a.raised, a.value.map f⟩) x

/-- The same attempt with what it looked for kept to itself. -/
def quiet (x : Attempted α) : Attempted α := Option.map (fun a => ⟨[], a.value⟩) x

end Attempted

end Reprint
