import Reprint.Text.Digits
import Reprint.Text.Named
import Reprint.Pattern.Mode

/-!
# Escapes

What a backslash and the characters behind it stand for.
-/

namespace Reprint.Pattern

open Text (Ranges)

/-- What stands behind a backslash. -/
inductive Escape where
  /-- A character; `byte` says that it was given by a number of two digits. -/
  | literal (c : Char) (byte : Bool)
  | look (l : Look)
  | set (s : Ranges)

namespace Escape

/-- What stands in braces, behind the opening one. -/
def braced? (m : Mode) (cs : List Char) : Option (List Char × List Char) :=
  match m.span (· != '\x7d') cs with
  | (inner, _ :: rest) => some (inner, rest)
  | (_, []) => none

/-- The character given by its number, behind the letter that says how many
digits there are without braces. -/
def code? (m : Mode) (digits : Nat) (cs : List Char) : Option (Escape × List Char) :=
  match m.skip cs with
  | '\x7b' :: cs => do
    let (inner, rest) ← braced? m cs
    if inner.isEmpty then none
    else
      let c ← Text.hexChar? inner
      return (.literal c false, rest)
  | cs => do
    let (written, rest) ← m.taken? digits cs
    let c ← Text.hexChar? written
    return (.literal c (digits == 2), rest)

/-- The parts of a text before and behind the first occurrence of a mark. -/
def parted? (mark : List Char) : List Char → Option (List Char × List Char)
  | [] => none
  | c :: cs =>
    if mark.isPrefixOf (c :: cs) then some ([], (c :: cs).drop mark.length)
    else (parted? mark cs).map fun (before, rest) => (c :: before, rest)

/-- The characters with the property that is written in braces. -/
def property? (written : List Char) : Option Ranges :=
  match parted? ['!', '='] written <|> parted? [':'] written <|> parted? ['='] written with
  | some (name, value) => Text.propertyValue? name value
  | none => Text.property? written

/-- A set given by a property, behind the letter that says whether it is
negated. -/
def ofProperty? (m : Mode) (negated : Bool) (cs : List Char) : Option (Escape × List Char) := do
  let (written, rest) ←
    match m.skip cs with
    | '\x7b' :: cs => braced? m cs
    | c :: cs => if c == '\\' then none else some ([c], cs)
    | [] => none
  let s ← property? written
  if m.scripts then
    let s ← m.negate? negated (m.widen s)
    return (.set s, rest)
  else none

/-- Characters that stand for themselves behind a backslash. -/
def isEscapable (c : Char) : Bool := c.toNat < 128 && !c.isAlphanum && c != '<' && c != '>'

/-- The kind of word boundary named in braces. -/
def namedBoundary? : String → Option WordPlace
  | "start" => some .start
  | "end" => some .stop
  | "start-half" => some .startHalf
  | "end-half" => some .stopHalf
  | _ => none

/-- A condition on the place in a word. -/
def place (m : Mode) (p : WordPlace) : Escape := .look (.word (!m.scripts) p)

/-- A word boundary; a name in braces may say which kind. -/
def boundary? (m : Mode) (cs : List Char) : Option (Escape × List Char) :=
  let isNameChar (c : Char) : Bool := c.isAlpha || c == '-'
  match cs with
  | '\x7b' :: inner =>
    match m.span isNameChar inner with
    | ([], []) => none
    | ([], _) => some (place m .edge, cs)
    | (name, '\x7d' :: rest) =>
      (namedBoundary? (String.ofList name)).map fun p => (place m p, rest)
    | _ => none
  | _ => some (place m .edge, cs)

/-- The digits, blanks or word characters, or all others. -/
def kind? (m : Mode) (all ascii : Ranges) (negated : Bool) (cs : List Char) :
    Option (Escape × List Char) :=
  (m.negate? negated (if m.scripts then all else ascii)).map fun s => (.set s, cs)

/-- An escape, behind its backslash. -/
def read? (m : Mode) : List Char → Option (Escape × List Char)
  | [] => none
  | c :: cs =>
    match c with
    | 'x' => code? m 2 cs
    | 'u' => code? m 4 cs
    | 'U' => code? m 8 cs
    | 'p' => ofProperty? m false cs
    | 'P' => ofProperty? m true cs
    | 'd' => kind? m Text.decimalNumbers [(0x30, 0x39)] false cs
    | 'D' => kind? m Text.decimalNumbers [(0x30, 0x39)] true cs
    | 's' => kind? m Text.blanks [(0x9, 0xd), (0x20, 0x20)] false cs
    | 'S' => kind? m Text.blanks [(0x9, 0xd), (0x20, 0x20)] true cs
    | 'w' => kind? m Text.wordChars Text.asciiWordChars false cs
    | 'W' => kind? m Text.wordChars Text.asciiWordChars true cs
    | 'a' => some (.literal '\x07' false, cs)
    | 'f' => some (.literal '\x0c' false, cs)
    | 't' => some (.literal '\t' false, cs)
    | 'n' => some (.literal '\n' false, cs)
    | 'r' => some (.literal '\r' false, cs)
    | 'v' => some (.literal '\x0b' false, cs)
    | 'A' => some (.look .start, cs)
    | 'z' => some (.look .stop, cs)
    | 'b' => boundary? m cs
    | 'B' => some (place m .noEdge, cs)
    | '<' => some (place m .start, cs)
    | '>' => some (place m .stop, cs)
    | c => if isEscapable c then some (.literal c false, cs) else none

end Escape

end Reprint.Pattern
