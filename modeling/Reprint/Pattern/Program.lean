import Reprint.Pattern.Expr

/-!
# Running a pattern

An expression becomes a program of numbered instructions.  The program runs
over a text with a list of threads in order of preference.  At each place an
instruction is followed at most once: a thread that comes to one that a
preferred thread has been to can find nothing better and ends.
-/

namespace Reprint.Pattern

open Text (Ranges)

/-! ## Programs -/

/-- An instruction; numbers are those of the instructions to go on with. -/
inductive Instr where
  | accept
  | read (s : Ranges) (next : Nat)
  | look (l : Look) (next : Nat)
  /-- Both ways, the first one preferred. -/
  | split (first second : Nat)
  deriving Repr, Inhabited

/-- A list of instructions, numbered from zero. -/
abbrev Code := Array Instr

/-- A piece of program under construction: where it starts and all code so far. -/
abbrev Piece := Nat × Code

namespace Code

/-- Adds an instruction and starts with it. -/
def push (code : Code) (i : Instr) : Piece := (code.size, Array.push code i)

/-- A split that prefers another round if `greedy`. -/
def fork (greedy : Bool) (round out : Nat) : Instr :=
  if greedy then .split round out else .split out round

/-- So many copies of a piece one after the other, before `next`. -/
def copies (piece : Nat → Code → Piece) : Nat → Nat → Code → Piece
  | 0, next, code => (next, code)
  | n + 1, next, code =>
    let (start, code) := piece next code
    copies piece n start code

/-- Up to so many copies of a piece; every one may be the last. -/
def upTo (piece : Nat → Code → Piece) (greedy : Bool) (out : Nat) :
    Nat → Nat → Code → Piece
  | 0, start, code => (start, code)
  | n + 1, start, code =>
    let (round, code) := piece start code
    let (start, code) := push code (fork greedy round out)
    upTo piece greedy out n start code

/-- A piece repeated at least once: where its rounds start, and the split behind each. -/
def loop (piece : Nat → Code → Piece) (greedy : Bool) (out : Nat) (code : Code) :
    Nat × Piece :=
  let (turn, code) := push code .accept
  let (round, code) := piece turn code
  (turn, round, code.setIfInBounds turn (fork greedy round out))

end Code

/-- The code of an expression that goes on with the instruction `next`.  A
repetition of what may match nothing is entered through a split of its own, so
that its rounds keep their order of preference. -/
def Expr.emit : Expr → (next : Nat) → Code → Piece
  | .empty, next, code => (next, code)
  | .literal text, next, code =>
    text.foldr (fun c (start, code) => Code.push code (.read (.single c.toNat) start)) (next, code)
  | .set s, next, code => code.push (.read s next)
  | .look l, next, code => code.push (.look l next)
  | .cat a b, next, code =>
    let (start, code) := b.emit next code
    a.emit start code
  | .alt a b, next, code =>
    let (first, code) := a.emit next code
    let (second, code) := b.emit next code
    code.push (.split first second)
  | .capture e, next, code => e.emit next code
  | .rounds e least (some most) greedy, next, code =>
    let (start, code) := Code.upTo e.emit greedy next (most - least) next code
    Code.copies e.emit least start code
  | .rounds e 0 none greedy, next, code =>
    let (turn, round, code) := Code.loop e.emit greedy next code
    if e.consumes then (turn, code) else code.push (Code.fork greedy round next)
  | .rounds e (least + 1) none greedy, next, code =>
    let (_, round, code) := Code.loop e.emit greedy next code
    Code.copies e.emit least round code

/-- A program and the instruction it starts with. -/
structure Program where
  code : Code
  start : Nat
  deriving Inhabited

/-- The program of an expression. -/
def Program.ofExpr (e : Expr) : Program :=
  let (start, code) := e.emit 0 #[.accept]
  { code, start }

/-! ## Running -/

/-- What a thread waits for. -/
inductive Thread where
  | accept
  | read (s : Ranges) (next : Nat)

namespace Program

/-- The threads that the instructions on the list come to without reading, in
order of preference.  A thread that accepts ends the list.  `visited` marks the
instructions that have been followed, and `left` others may still be. -/
def follow (p : Program) (holds : Look → Bool) :
    (left : Nat) → (visited : Array Bool) → List Nat → List Thread
  | _, _, [] => []
  | 0, _, _ => []
  | left + 1, visited, n :: todo =>
    match visited[n]?, p.code[n]? with
    | some false, some instr =>
      let visited := visited.setIfInBounds n true
      match instr with
      | .accept => [.accept]
      | .read s next => .read s next :: p.follow holds left visited todo
      | .look l next => p.follow holds left visited (if holds l then next :: todo else todo)
      | .split first second => p.follow holds left visited (first :: second :: todo)
    | _, _ => p.follow holds (left + 1) visited todo
termination_by left _ todo => 2 * left + todo.length
decreasing_by all_goals grind

/-- The threads that instructions come to, where none has been followed yet. -/
def threads (p : Program) (before after : Option Char) (starts : List Nat) : List Thread :=
  p.follow (Look.holds before after) p.code.size (.replicate p.code.size false) starts

/-- The number of characters up to the end of the preferred match, given the
threads at the start of a text and the number of characters taken before it. -/
def run (p : Program) (threads : List Thread) (taken : Nat) : List Char → Option Nat
  | [] => if threads.any (· matches .accept) then some taken else none
  | c :: cs =>
    let nexts := threads.filterMap fun
      | .read s next => if s.contains c.toNat then some next else none
      | .accept => none
    let later :=
      if nexts.isEmpty then none
      else p.run (p.threads (some c) cs.head? nexts) (taken + 1) cs
    match later with
    | some n => some n
    | none => if threads.any (· matches .accept) then some taken else none

/-- The preferred match at the first place that has one: the number of
characters before it and up to its end. -/
def search (p : Program) (before : Option Char) (skipped : Nat) (cs : List Char) :
    Option (Nat × Nat) :=
  match p.run (p.threads before cs.head? [p.start]) skipped cs with
  | some stop => some (skipped, stop)
  | none =>
    match cs with
    | [] => none
    | c :: cs => p.search (some c) (skipped + 1) cs

end Program

end Reprint.Pattern
