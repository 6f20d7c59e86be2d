import Reprint.Doc.Basic

/-!
# Assembling a document

A document is assembled piece by piece.  Opening a bracket starts a frame;
closing it wraps all that was added since into a group, an indentation or a
join, and adds that to the frame around it.  Brackets close in the reverse
order of their opening.

Each frame remembers whether the last piece was trivia, so that kept trivia
never follows kept trivia.

While a mark is out every change is written down with what undoes it, and going
back to a mark undoes the changes since then, newest first.
-/

namespace Reprint

/-! ## Brackets -/

/-- The three kinds of bracket. -/
inductive BracketName where
  | group
  | indent
  | join
  deriving DecidableEq, Repr, Inhabited

/-- The word for a bracket in messages. -/
def BracketName.word : BracketName → String
  | .group => "group"
  | .indent => "nest"
  | .join => "join"

/-- An opened bracket with what it needs when it closes. -/
inductive Bracket where
  | group
  | indent (amount : Option UInt32)
  | join (separator : Doc)
  deriving Inhabited

namespace Bracket

def name : Bracket → BracketName
  | .group => .group
  | .indent _ => .indent
  | .join _ => .join

/-- The pieces inside the bracket as one document. -/
def wrap (bracket : Bracket) (pieces : List Doc) : Doc :=
  match bracket with
  | .group => .group (.concat pieces)
  | .indent amount => .indent amount (.concat pieces)
  | .join separator => .join (Doc.concat pieces).items separator

end Bracket

/-- Brackets that do not nest. -/
inductive NestingError where
  /-- A bracket was closed while another one, or none, was the innermost. -/
  | mismatched (closing : BracketName) (innermost : Option BracketName)
  /-- A bracket was still open when its content was needed. -/
  | unclosed (name : BracketName)
  deriving DecidableEq, Repr, Inhabited

def NestingError.message : NestingError → String
  | .mismatched closing (some innermost) =>
    "improperly nested formatting directives: `" ++ closing.word ++ "` closed while `"
      ++ innermost.word ++ "` is open"
  | .mismatched closing none =>
    "improperly nested formatting directives: `" ++ closing.word ++ "` closed but never opened"
  | .unclosed name =>
    "improperly nested formatting directives: `" ++ name.word ++ "` is never closed"

/-! ## Frames -/

/-- The pieces added to one frame. -/
structure Pieces where
  /-- Newest first. -/
  recent : List Doc := []
  /-- Whether the newest piece, control nodes apart, was trivia. -/
  trivia : Bool := false
  deriving Inhabited

namespace Pieces

/-- The pieces in the order in which they were added. -/
def toList (p : Pieces) : List Doc := p.recent.reverse

/-- Adds a piece. -/
def push (p : Pieces) (d : Doc) (trivia : Bool) : Pieces := ⟨d :: p.recent, trivia⟩

/-- Takes the newest pieces away until `count` are left. -/
def truncate (p : Pieces) (count : Nat) (trivia : Bool) : Pieces :=
  ⟨p.recent.drop (p.recent.length - count), trivia⟩

end Pieces

/-- An open bracket and the pieces inside it. -/
structure Frame where
  bracket : Bracket
  pieces : Pieces := {}
  deriving Inhabited

/-- What undoes one change. -/
inductive Undo where
  /-- One piece was added to the innermost frame. -/
  | pushed (trivia : Bool)
  /-- Pieces were added to the innermost frame, which had `count` before. -/
  | extended (count : Nat) (trivia : Bool)
  /-- A frame was opened. -/
  | opened
  /-- A frame was closed and added to the one around it. -/
  | closed (frame : Frame) (trivia : Bool)
  deriving Inhabited

/-- A document in the making. -/
structure Assembly where
  /-- What stands outside all brackets. -/
  root : Pieces := {}
  /-- The open frames, innermost first. -/
  frames : List Frame := []
  /-- What undoes the changes since the first mark, newest first. -/
  journal : List Undo := []
  /-- The number of marks that are out. -/
  marks : Nat := 0
  deriving Inhabited

namespace Assembly

/-! ## Looking -/

/-- The pieces of the innermost frame. -/
def top (a : Assembly) : Pieces :=
  match a.frames with
  | [] => a.root
  | frame :: _ => frame.pieces

/-- Whether the last piece was trivia. -/
def lastWasTrivia (a : Assembly) : Bool := a.top.trivia

/-- Whether every bracket is closed. -/
def isClosed (a : Assembly) : Bool := a.frames.isEmpty

/-- Whether nothing was added at all. -/
def isEmpty (a : Assembly) : Bool := a.frames.isEmpty && a.root.recent.isEmpty

/-- The word for the innermost bracket, if one is open. -/
def innermost? (a : Assembly) : Option BracketName := a.frames.head?.map (·.bracket.name)

/-! ## Changing -/

/-- Changes the pieces of the innermost frame. -/
def modifyTop (a : Assembly) (f : Pieces → Pieces) : Assembly :=
  match a.frames with
  | [] => { a with root := f a.root }
  | frame :: outer => { a with frames := { frame with pieces := f frame.pieces } :: outer }

/-- Writes down what undoes a change, while a mark is out. -/
def record (a : Assembly) (undo : Undo) : Assembly :=
  if a.marks = 0 then a else { a with journal := undo :: a.journal }

/-- Adds a piece and says whether it is trivia. -/
def push (a : Assembly) (d : Doc) (trivia : Bool) : Assembly :=
  (a.record (.pushed a.lastWasTrivia)).modifyTop (·.push d trivia)

/-- Adds a piece that is no trivia. -/
def addContent (a : Assembly) (d : Doc) : Assembly := a.push d false

/-- Adds trivia. -/
def addTrivia (a : Assembly) (d : Doc) : Assembly := a.push d true

/-- Adds a control node.  Whether the last piece was trivia stays as it was. -/
def addControl (a : Assembly) (d : Doc) : Assembly := a.push d a.lastWasTrivia

/-- Opens a bracket. -/
def openBracket (a : Assembly) (bracket : Bracket) : Assembly :=
  let a := a.record .opened
  { a with frames := { bracket } :: a.frames }

/-- Takes the innermost frame out, if it is that of a bracket of this name.  A frame of
another bracket is put back. -/
def pop (a : Assembly) (name : BracketName) : Except NestingError Frame × Assembly :=
  match a.frames with
  | [] => (.error (.mismatched name none), a)
  | frame :: outer =>
    let a := { a with frames := outer }
    if frame.bracket.name = name then (.ok frame, a.record (.closed frame a.lastWasTrivia))
    else
      let a := { a with frames := frame :: a.frames }
      (.error (.mismatched name (some frame.bracket.name)), a)

/-- Closes the innermost bracket, which has to be of this name.  How that ends comes with
the assembly that is left. -/
def close (a : Assembly) (name : BracketName) : Except NestingError Unit × Assembly :=
  match a.pop name with
  | (.error e, a) => (.error e, a)
  | (.ok frame, a) =>
    (.ok (), a.modifyTop (·.push (frame.bracket.wrap frame.pieces.toList) frame.pieces.trivia))

/-- Adds all that another assembly holds, whose brackets have to be closed.  How that ends
comes with the assembly that is left. -/
def absorb (a other : Assembly) : Except NestingError Unit × Assembly :=
  match other.innermost? with
  | some name => (.error (.unclosed name), a)
  | none =>
    if other.root.recent.isEmpty then (.ok (), a)
    else
      let a := a.record (.extended a.top.recent.length a.lastWasTrivia)
      (.ok (), a.modifyTop fun p => ⟨other.root.recent ++ p.recent, other.root.trivia⟩)

/-- The assembly with its innermost bracket closed. -/
def closeBracket (a : Assembly) (name : BracketName) : Except NestingError Assembly :=
  (a.close name).1.map fun _ => (a.close name).2

/-- The assembly with another one added. -/
def merge (a other : Assembly) : Except NestingError Assembly :=
  (a.absorb other).1.map fun _ => (a.absorb other).2

/-- The document, if every bracket is closed. -/
def finish (a : Assembly) : Except NestingError Doc :=
  match a.innermost? with
  | some name => .error (.unclosed name)
  | none => .ok (.concat a.root.toList)

/-- Adds the closed frames, innermost first, to the pieces around them. -/
def foldFrames (root : Pieces) : List Frame → Pieces
  | [] => root
  | [frame] => root.push (frame.bracket.wrap frame.pieces.toList) frame.pieces.trivia
  | frame :: outer :: rest =>
    let pieces := outer.pieces.push (frame.bracket.wrap frame.pieces.toList) frame.pieces.trivia
    foldFrames root ({ outer with pieces } :: rest)
termination_by frames => frames.length

/-- The document that closing all open brackets would give. -/
def preview (a : Assembly) : Doc := .concat (foldFrames a.root a.frames).toList

/-! ## Going back -/

/-- Puts out a mark: the length of the journal to go back to. -/
def mark (a : Assembly) : Nat × Assembly := (a.journal.length, { a with marks := a.marks + 1 })

/-- Takes one mark back.  With the last one the journal is forgotten. -/
def release (a : Assembly) : Assembly :=
  { a with marks := a.marks - 1, journal := if a.marks ≤ 1 then [] else a.journal }

/-- Keeps what was done since a mark, which must not lie beyond the journal. -/
def commit? (a : Assembly) (mark : Nat) : Option Assembly :=
  if mark ≤ a.journal.length then some a.release else none

/-- Undoes one change. -/
def undo (a : Assembly) : Undo → Assembly
  | .pushed trivia => a.modifyTop fun p => ⟨p.recent.tail, trivia⟩
  | .extended count trivia => a.modifyTop (·.truncate count trivia)
  | .opened => { a with frames := a.frames.tail }
  | .closed frame trivia =>
    let a := a.modifyTop fun p => ⟨p.recent.tail, trivia⟩
    { a with frames := frame :: a.frames }

/-- Undoes changes, newest first. -/
def undoAll (a : Assembly) (changes : List Undo) : Assembly := changes.foldl undo a

/-- Undoes all that was done since a mark. -/
def rollback (a : Assembly) (mark : Nat) : Assembly :=
  let count := a.journal.length - mark
  let changes := a.journal.take count
  (undoAll { a with journal := a.journal.drop count } changes).release

end Assembly

end Reprint
