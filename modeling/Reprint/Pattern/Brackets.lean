import Reprint.Pattern.Escape

/-!
# Sets in brackets

A set in brackets is written as characters, ranges, escapes, names between
colons and sets in brackets again, combined by operators that bind from the
left.  Where case does not matter a set is widened before it is combined or
complemented.
-/

namespace Reprint.Pattern

open Text (Ranges)

/-- How two sets in one pair of brackets are combined. -/
inductive SetOp where
  | inter
  | diff
  | symmDiff

def SetOp.apply : SetOp → Ranges → Ranges → Ranges
  | .inter => Ranges.inter
  | .diff => Ranges.diff
  | .symmDiff => Ranges.symmDiff

/-- A set and how deeply its writing is nested. -/
structure Operand where
  set : Ranges := []
  depth : Nat := 0

/-- An open pair of brackets. -/
structure Brackets where
  negated : Bool
  /-- The operator before the current operand, with its left operand. -/
  pending : Option (SetOp × Operand) := none
  /-- The current operand, apart from the nesting that its parts make together. -/
  current : Operand := {}
  /-- The number of parts of the current operand. -/
  parts : Nat := 0

namespace Brackets

/-- Adds a part to the current operand. -/
def add (b : Brackets) (s : Ranges) (depth : Nat) : Brackets :=
  { b with
    current := ⟨b.current.set.union s, max b.current.depth depth⟩
    parts := b.parts + 1 }

/-- All operands so far, combined from the left. -/
def operand (m : Mode) (b : Brackets) : Operand :=
  let depth := if b.parts ≤ 1 then b.current.depth else b.current.depth + 1
  match b.pending with
  | some (op, left) =>
    ⟨op.apply (m.widen left.set) (m.widen b.current.set), max left.depth depth + 1⟩
  | none => ⟨b.current.set, depth⟩

/-- An operator after the current operand. -/
def combine (m : Mode) (b : Brackets) (op : SetOp) : Brackets :=
  { negated := b.negated, pending := some (op, b.operand m) }

/-- The set between the brackets. -/
def close? (m : Mode) (b : Brackets) : Option Operand :=
  let inner := b.operand m
  (m.negate? b.negated (m.widen inner.set)).map fun s => ⟨s, inner.depth + 1⟩

/-- A pair of brackets behind the opening one.  Hyphens in front stand for
themselves, and so does a closing bracket that is the first of all. -/
def opened (m : Mode) (cs : List Char) : Brackets × List Char :=
  let (negated, cs) := match m.skip cs with
    | '^' :: rest => (true, m.skip rest)
    | cs => (false, cs)
  let b : Brackets := { negated }
  match m.span (· == '-') cs with
  | ([], ']' :: rest) => (b.add (.single ']'.toNat) 0, rest)
  | (hyphens, rest) => (hyphens.foldl (fun b c => b.add (.single c.toNat) 0) b, rest)

/-- A set known by a name between colons. -/
def namedSet? : String → Option Ranges
  | "alnum" => some [(48, 57), (65, 90), (97, 122)]
  | "alpha" => some [(65, 90), (97, 122)]
  | "ascii" => some [(0, 127)]
  | "blank" => some [(9, 9), (32, 32)]
  | "cntrl" => some [(0, 31), (127, 127)]
  | "digit" => some [(48, 57)]
  | "graph" => some [(33, 126)]
  | "lower" => some [(97, 122)]
  | "print" => some [(32, 126)]
  | "punct" => some [(33, 47), (58, 64), (91, 96), (123, 126)]
  | "space" => some [(9, 13), (32, 32)]
  | "upper" => some [(65, 90)]
  | "word" => some [(48, 57), (65, 90), (95, 95), (97, 122)]
  | "xdigit" => some [(48, 57), (65, 70), (97, 102)]
  | _ => none

/-- A named set such as `[:alpha:]`, behind its opening bracket, and whether it
is negated. -/
def named? : List Char → Option (Bool × Ranges × List Char)
  | ':' :: cs =>
    let (negated, cs) := match cs with
      | '^' :: rest => (true, rest)
      | _ => (false, cs)
    match cs.dropWhile (· != ':') with
    | ':' :: ']' :: rest =>
      (namedSet? (String.ofList (cs.takeWhile (· != ':')))).map fun s => (negated, s, rest)
    | _ => none
  | _ => none

/-- One end of a range. -/
def item? (m : Mode) : List Char → Option (Escape × List Char)
  | [] => none
  | '\\' :: cs => Escape.read? m cs
  | c :: cs => some (.literal c false, cs)

/-- The characters between two; without the characters of all scripts they have
to be among the first 128. -/
def between? (m : Mode) (low high : Char) : Option Ranges :=
  if low ≤ high && (m.scripts || high.toNat < 128) then some [(low.toNat, high.toNat)] else none

/-- A character, a range or a set. -/
def range? (m : Mode) (cs : List Char) : Option (Ranges × List Char) := do
  let (first, rest) ← item? m cs
  let rest := m.skip rest
  let alone : Option (Ranges × List Char) :=
    match first with
    | .literal c _ => (between? m c c).map fun s => (s, rest)
    | .set s => some (s, rest)
    | .look _ => none
  match rest with
  | '-' :: behind =>
    if m.peek behind == some ']' || m.peek behind == some '-' then alone
    else
      let (last, rest) ← item? m (m.skip behind)
      match first, last with
      | .literal low _, .literal high _ => (between? m low high).map fun s => (s, rest)
      | _, _ => none
  | _ => alone

/-- What comes next in brackets: the brackets around and the innermost ones,
or the whole set if the outermost brackets close. -/
def step? (m : Mode) (outer : List Brackets) (b : Brackets) (cs : List Char) :
    Option ((List Brackets × Brackets ⊕ Operand) × List Char) :=
  match m.skip cs with
  | [] => none
  | ']' :: cs => do
    let closed ← b.close? m
    match outer with
    | [] => return (.inr closed, cs)
    | around :: outer => return (.inl (outer, around.add closed.set closed.depth), cs)
  | '[' :: cs =>
    match named? cs with
    | some (negated, s, rest) =>
      (m.negate? negated (m.widen s)).map fun s => (.inl (outer, b.add s 0), rest)
    | none =>
      let (inner, rest) := opened m cs
      some (.inl (b :: outer, inner), rest)
  | '&' :: '&' :: cs => some (.inl (outer, b.combine m .inter), cs)
  | '-' :: '-' :: cs => some (.inl (outer, b.combine m .diff), cs)
  | '~' :: '~' :: cs => some (.inl (outer, b.combine m .symmDiff), cs)
  | cs => (range? m cs).map fun (s, rest) => (.inl (outer, b.add s 0), rest)

/-- The rest of a set in brackets.  A step that takes no text is malformed. -/
def rest? (m : Mode) (outer : List Brackets) (b : Brackets) (cs : List Char) :
    Option (Operand × List Char) :=
  match step? m outer b cs with
  | none => none
  | some (.inr s, rest) => some (s, rest)
  | some (.inl (outer, b), rest) =>
    if rest.length < cs.length then rest? m outer b rest else none
termination_by cs.length

/-- A set in brackets, behind the opening one. -/
def read? (m : Mode) (cs : List Char) : Option (Operand × List Char) :=
  let (b, rest) := opened m cs
  rest? m [] b rest

end Brackets

end Reprint.Pattern
