import Mathlib.Data.List.Basic
import Reprint.Assembly

/-!
# The pieces of an assembly

The pieces of an assembly are those of its root and of its open frames, from the
outside in, which is the order in which they were added.  Adding puts a piece
behind them, closing a bracket replaces the pieces of its frame by one, and
merging appends those of the other assembly.
-/

namespace Reprint.Assembly

/-- All pieces in the order in which they were added. -/
def docs (a : Assembly) : List Doc := a.root.toList ++ a.frames.reverse.flatMap (·.pieces.toList)

/-- The open brackets, innermost first. -/
def brackets (a : Assembly) : List Bracket := a.frames.map (·.bracket)

@[simp] theorem docs_record (a : Assembly) (u : Undo) : (a.record u).docs = a.docs := by
  unfold record
  split <;> rfl

@[simp] theorem frames_record (a : Assembly) (u : Undo) : (a.record u).frames = a.frames := by
  unfold record
  split <;> rfl

@[simp] theorem root_record (a : Assembly) (u : Undo) : (a.record u).root = a.root := by
  unfold record
  split <;> rfl

theorem docs_of_frames_eq_nil {a : Assembly} (closed : a.frames = []) : a.docs = a.root.toList := by
  simp [docs, closed]

@[simp] theorem brackets_modifyTop (a : Assembly) (f : Pieces → Pieces) :
    (a.modifyTop f).brackets = a.brackets := by
  unfold modifyTop brackets
  split
  · rfl
  · next same => rw [same]; rfl

/-- A change that appends pieces to the innermost frame appends them to all. -/
theorem docs_modifyTop {f : Pieces → Pieces} {added : List Doc} (a : Assembly)
    (appends : (f a.top).toList = a.top.toList ++ added) : (a.modifyTop f).docs = a.docs ++ added := by
  unfold modifyTop docs
  unfold top at appends
  split
  · next same =>
    rw [same] at appends
    simp [same, appends]
  · next frame outer same =>
    rw [same] at appends
    simp [same, appends]

theorem lastWasTrivia_modifyTop (a : Assembly) (f : Pieces → Pieces) :
    (a.modifyTop f).lastWasTrivia = (f a.top).trivia := by
  unfold modifyTop lastWasTrivia top
  cases a.frames <;> rfl

/-! ## Adding -/

@[simp] theorem docs_push (a : Assembly) (d : Doc) (trivia : Bool) :
    (a.push d trivia).docs = a.docs ++ [d] := by
  rw [push, docs_modifyTop, docs_record]
  simp [Pieces.push, Pieces.toList]

@[simp] theorem brackets_push (a : Assembly) (d : Doc) (trivia : Bool) :
    (a.push d trivia).brackets = a.brackets := by
  rw [push, brackets_modifyTop, brackets, frames_record]
  rfl

@[simp] theorem lastWasTrivia_push (a : Assembly) (d : Doc) (trivia : Bool) :
    (a.push d trivia).lastWasTrivia = trivia := by
  rw [push, lastWasTrivia_modifyTop]
  rfl

theorem brackets_eq_nil {a : Assembly} : a.brackets = [] ↔ a.frames = [] := List.map_eq_nil_iff

/-- Adding opens no bracket and closes none. -/
theorem frames_push {a : Assembly} {d : Doc} {trivia : Bool} :
    (a.push d trivia).frames = [] ↔ a.frames = [] := by
  rw [← brackets_eq_nil, brackets_push, brackets_eq_nil]

/-! ## Brackets -/

@[simp] theorem docs_openBracket (a : Assembly) (b : Bracket) : (a.openBracket b).docs = a.docs := by
  simp [openBracket, docs, Pieces.toList]

@[simp] theorem brackets_openBracket (a : Assembly) (b : Bracket) :
    (a.openBracket b).brackets = b :: a.brackets := by
  simp [openBracket, brackets]

theorem closeBracket_eq (a : Assembly) (name : BracketName) :
    a.closeBracket name = match a.frames with
      | [] => .error (.mismatched name none)
      | frame :: outer =>
        if frame.bracket.name = name then
          let a := { a with frames := outer }
          let a := a.record (.closed frame a.lastWasTrivia)
          .ok (a.modifyTop (·.push (frame.bracket.wrap frame.pieces.toList) frame.pieces.trivia))
        else .error (.mismatched name (some frame.bracket.name)) := by
  unfold closeBracket close pop
  cases a.frames with
  | nil => rfl
  | cons frame outer =>
    dsimp only
    split_ifs <;> rfl

/-- A bracket that does not close leaves everything as it was. -/
theorem close_of_error {a : Assembly} {name : BracketName} {e : NestingError}
    (failed : (a.close name).1 = .error e) : (a.close name).2 = a := by
  obtain ⟨root, frames, journal, marks⟩ := a
  unfold close pop at failed ⊢
  cases frames with
  | nil => rfl
  | cons frame outer =>
    dsimp only at failed ⊢
    split_ifs at failed ⊢ with same
    rfl

/-- Closing a bracket wraps the newest pieces into one. -/
theorem exists_of_closeBracket {a b : Assembly} {name : BracketName}
    (closed : a.closeBracket name = .ok b) :
    ∃ front inner bracket, a.docs = front ++ inner ∧ b.docs = front ++ [bracket.wrap inner] ∧
      a.brackets = bracket :: b.brackets ∧ b.lastWasTrivia = a.lastWasTrivia := by
  rw [closeBracket_eq] at closed
  split at closed
  · cases closed
  · next frame outer same =>
    dsimp only at closed
    split_ifs at closed with known
    obtain rfl := Except.ok.inj closed
    refine ⟨a.root.toList ++ outer.reverse.flatMap (·.pieces.toList), frame.pieces.toList,
      frame.bracket, ?_, ?_, ?_, ?_⟩
    · simp [docs, same]
    · rw [docs_modifyTop, docs_record]
      · rfl
      · simp [Pieces.push, Pieces.toList]
    · rw [brackets_modifyTop, brackets, brackets, frames_record, same]
      rfl
    · have own : a.lastWasTrivia = frame.pieces.trivia := by rw [lastWasTrivia, top, same]
      rw [lastWasTrivia_modifyTop, own]
      rfl

/-- The innermost bracket closes under its own name. -/
theorem exists_closeBracket {a : Assembly} {bracket : Bracket} {outer : List Bracket}
    (opened : a.brackets = bracket :: outer) :
    ∃ b, a.closeBracket bracket.name = .ok b ∧ b.brackets = outer := by
  obtain ⟨frame, frames, same, rfl, rfl⟩ := List.map_eq_cons_iff.1 opened
  rw [closeBracket_eq, same]
  dsimp only
  rw [if_pos rfl]
  refine ⟨_, rfl, ?_⟩
  rw [brackets_modifyTop, brackets, frames_record]

/-! ## Other assemblies -/

theorem innermost?_eq_none {a : Assembly} : a.innermost? = none ↔ a.frames = [] := by
  simp [innermost?]

theorem merge_eq (a other : Assembly) :
    a.merge other = match other.innermost? with
      | some name => .error (.unclosed name)
      | none =>
        if other.root.recent.isEmpty then .ok a
        else
          let a := a.record (.extended a.top.recent.length a.lastWasTrivia)
          .ok (a.modifyTop fun p => ⟨other.root.recent ++ p.recent, other.root.trivia⟩) := by
  unfold merge absorb
  cases other.innermost? with
  | some name => rfl
  | none =>
    dsimp only
    split_ifs <;> rfl

/-- An assembly that is not merged leaves everything as it was. -/
theorem absorb_of_error {a other : Assembly} {e : NestingError}
    (failed : (a.absorb other).1 = .error e) : (a.absorb other).2 = a := by
  unfold absorb at failed ⊢
  cases none : other.innermost? with
  | some name => rfl
  | none =>
    rw [none] at failed
    dsimp only at failed
    split_ifs at failed

/-- Merging appends the pieces of an assembly without open brackets. -/
theorem exists_of_merge {a b other : Assembly} (merged : a.merge other = .ok b) :
    other.frames = [] ∧ b.docs = a.docs ++ other.docs ∧ b.brackets = a.brackets ∧
      b.lastWasTrivia = if other.docs = [] then a.lastWasTrivia else other.lastWasTrivia := by
  rw [merge_eq] at merged
  split at merged
  · cases merged
  · next none =>
    have closed := innermost?_eq_none.1 none
    have pieces := docs_of_frames_eq_nil closed
    have flag : other.lastWasTrivia = other.root.trivia := by rw [lastWasTrivia, top, closed]
    rw [flag, pieces]
    split_ifs at merged with nothing
    · obtain rfl := Except.ok.inj merged
      have none : other.root.toList = [] := by simp [Pieces.toList, List.isEmpty_iff.1 nothing]
      simp [closed, none]
    · obtain rfl := Except.ok.inj merged
      have some : other.root.toList ≠ [] := by
        simpa [Pieces.toList, List.isEmpty_iff] using nothing
      refine ⟨closed, ?_, ?_, ?_⟩
      · rw [docs_modifyTop, docs_record]
        simp [Pieces.toList]
      · rw [brackets_modifyTop, brackets, frames_record]
        rfl
      · rw [lastWasTrivia_modifyTop, if_neg some]

/-- An assembly without open brackets can be merged into any other one. -/
theorem exists_merge (a : Assembly) {other : Assembly} (closed : other.frames = []) :
    ∃ b, a.merge other = .ok b ∧ b.brackets = a.brackets := by
  obtain ⟨b, merged⟩ : ∃ b, a.merge other = .ok b := by
    rw [merge_eq, innermost?_eq_none.2 closed]
    dsimp only
    split_ifs
    · exact ⟨_, rfl⟩
    · exact ⟨_, rfl⟩
  exact ⟨b, merged, (exists_of_merge merged).2.2.1⟩

theorem finish_eq_ok {a : Assembly} {d : Doc} :
    a.finish = .ok d ↔ a.frames = [] ∧ d = Doc.concat a.docs := by
  unfold finish
  split
  · next name open' =>
    have opened : a.frames ≠ [] := fun closed => by simp [innermost?, closed] at open'
    simp [opened]
  · next none =>
    have closed := innermost?_eq_none.1 none
    simp [closed, docs_of_frames_eq_nil closed, eq_comm]

end Reprint.Assembly
