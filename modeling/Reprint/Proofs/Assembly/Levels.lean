import Reprint.Proofs.Assembly

/-!
# Levels of an assembly

An assembly has one level of pieces for each open bracket, innermost first, and one
for what stands outside all brackets.  Whatever is added goes to the innermost level
(`levels_modifyTop`), opening a bracket begins a new one, and closing it puts the
innermost level as one piece onto the next (`exists_levels_closeBracket`).

What a step adds to an assembly can be told from the assembly (`extend`), as long as
no mark is out for which changes are written down.
-/

namespace Reprint

namespace Pieces

/-- Pieces with others behind them. -/
def append (p added : Pieces) : Pieces := ⟨added.recent ++ p.recent, added.trivia⟩

@[simp] theorem toList_append (p added : Pieces) :
    (p.append added).toList = p.toList ++ added.toList := by
  simp [append, toList]

theorem append_assoc (p q r : Pieces) : (p.append q).append r = p.append (q.append r) := by
  simp [append]

@[simp] theorem toList_push (p : Pieces) (d : Doc) (trivia : Bool) :
    (p.push d trivia).toList = p.toList ++ [d] := by
  simp [push, toList]

end Pieces

namespace Assembly

/-! ## Levels -/

/-- The pieces of the open frames, innermost first, and those outside. -/
def levels (a : Assembly) : List Pieces := a.frames.map (·.pieces) ++ [a.root]

theorem levels_eq_cons (a : Assembly) : a.levels = a.top :: a.levels.tail := by
  unfold levels top
  cases a.frames <;> rfl

theorem top_eq_of_levels {a : Assembly} {p : Pieces} {ps : List Pieces}
    (levels : a.levels = p :: ps) : a.top = p :=
  (List.cons.inj (a.levels_eq_cons.symm.trans levels)).1

theorem levels_modifyTop (a : Assembly) (f : Pieces → Pieces) :
    (a.modifyTop f).levels = f a.top :: a.levels.tail := by
  unfold levels modifyTop top
  cases a.frames with
  | nil => simp
  | cons => rfl

@[simp] theorem levels_record (a : Assembly) (u : Undo) : (a.record u).levels = a.levels := by
  unfold levels
  rw [frames_record, root_record]

theorem top_record (a : Assembly) (u : Undo) : (a.record u).top = a.top := by
  unfold top
  rw [frames_record, root_record]

theorem levels_push (a : Assembly) (d : Doc) (trivia : Bool) :
    (a.push d trivia).levels = a.top.push d trivia :: a.levels.tail := by
  rw [push, levels_modifyTop, levels_record, top_record]

theorem levels_addControl (a : Assembly) (d : Doc) :
    (a.addControl d).levels = a.top.push d a.lastWasTrivia :: a.levels.tail := levels_push ..

theorem brackets_addControl (a : Assembly) (d : Doc) :
    (a.addControl d).brackets = a.brackets := brackets_push ..

theorem levels_openBracket (a : Assembly) (b : Bracket) :
    (a.openBracket b).levels = {} :: a.levels := by
  simp [levels, openBracket]

/-- Closing the innermost bracket puts all that is inside as one piece onto the next
level. -/
theorem exists_levels_closeBracket {a : Assembly} {bracket : Bracket} {outer : List Bracket}
    (opened : a.brackets = bracket :: outer) :
    ∃ b next rest, a.closeBracket bracket.name = .ok b ∧ b.brackets = outer ∧
      a.levels = a.top :: next :: rest ∧
      b.levels = next.push (bracket.wrap a.top.toList) a.top.trivia :: rest := by
  obtain ⟨b, closed, left⟩ := exists_closeBracket opened
  obtain ⟨frame, frames, same, rfl, rfl⟩ := List.map_eq_cons_iff.1 opened
  rw [closeBracket_eq, same] at closed
  dsimp only at closed
  rw [if_pos rfl] at closed
  have inner : a.top = frame.pieces := by rw [top, same]
  let lower : Assembly := { a with frames }
  refine ⟨b, lower.top, lower.levels.tail, ?_, left, ?_, ?_⟩
  · rw [← closed, closeBracket_eq, same]
    dsimp only
    rw [if_pos rfl]
  · rw [← levels_eq_cons, inner]
    simp [levels, lower, same]
  · rw [← Except.ok.inj closed, levels_modifyTop, levels_record, top_record, inner]

/-! ## Adding to the innermost level -/

/-- An assembly with pieces added to the innermost level. -/
def extend (a : Assembly) (added : Pieces) : Assembly := a.modifyTop (·.append added)

theorem levels_extend (a : Assembly) (added : Pieces) :
    (a.extend added).levels = a.top.append added :: a.levels.tail := levels_modifyTop a _

@[simp] theorem brackets_extend (a : Assembly) (added : Pieces) :
    (a.extend added).brackets = a.brackets := brackets_modifyTop a _

theorem extend_extend (a : Assembly) (p q : Pieces) :
    (a.extend p).extend q = a.extend (p.append q) := by
  unfold extend modifyTop
  cases a.frames <;> simp [Pieces.append_assoc]

theorem extend_nothing (a : Assembly) : a.extend ⟨[], a.lastWasTrivia⟩ = a := by
  obtain ⟨⟨recent, trivia⟩, frames, journal, marks⟩ := a
  cases frames <;> rfl

/-- No change is written down, and the last piece was trivia or was not. -/
structure Stands (trivia : Bool) (a : Assembly) : Prop where
  marks : a.marks = 0
  flag : a.lastWasTrivia = trivia

namespace Stands

variable {a : Assembly} {trivia : Bool} (stands : a.Stands trivia)
include stands

theorem extend (added : Pieces) : (a.extend added).Stands added.trivia := by
  constructor
  · rw [← stands.marks, Assembly.extend, modifyTop]
    split <;> rfl
  · rw [Assembly.extend, lastWasTrivia_modifyTop]
    rfl

theorem record_eq (u : Undo) : a.record u = a := by
  rw [record, if_pos stands.marks]

theorem extend_eq : a.extend ⟨[], trivia⟩ = a := by
  rw [← stands.flag]
  exact a.extend_nothing

theorem push_eq (d : Doc) (flag : Bool) : a.push d flag = a.extend ⟨[d], flag⟩ := by
  rw [push, stands.record_eq]
  rfl

theorem addControl_eq (d : Doc) : a.addControl d = a.extend ⟨[d], trivia⟩ := by
  rw [addControl, stands.push_eq, stands.flag]

theorem addControl (d : Doc) : (a.addControl d).Stands trivia := by
  rw [stands.addControl_eq]
  exact stands.extend ⟨[d], trivia⟩

theorem openBracket (b : Bracket) : (a.openBracket b).Stands false := by
  constructor
  · rw [Assembly.openBracket, stands.record_eq]
    exact stands.marks
  · rfl

end Stands

/-- Merging adds what the other assembly holds. -/
theorem exists_merge_extend {other : Assembly} (closed : other.frames = []) (trivia : Bool) :
    ∃ added : Pieces, added.toList = other.docs ∧
      ∀ a : Assembly, a.Stands trivia → a.merge other = .ok (a.extend added) := by
  have innermost : other.innermost? = none := innermost?_eq_none.2 closed
  by_cases nothing : other.root.recent.isEmpty
  · refine ⟨⟨[], trivia⟩, ?_, fun a stands => ?_⟩
    · rw [docs_of_frames_eq_nil closed, Pieces.toList, Pieces.toList, List.isEmpty_iff.1 nothing]
    · simp only [merge_eq, innermost, nothing, if_true, stands.extend_eq]
  · refine ⟨other.root, (docs_of_frames_eq_nil closed).symm, fun a stands => ?_⟩
    simp only [merge_eq, innermost, nothing, stands.record_eq]
    rfl

theorem stands_empty : ({} : Assembly).Stands false := ⟨rfl, rfl⟩

theorem docs_extend_empty (added : Pieces) :
    (({} : Assembly).extend added).docs = added.toList := by
  simp [extend, modifyTop, docs, Pieces.append]

end Assembly

end Reprint
