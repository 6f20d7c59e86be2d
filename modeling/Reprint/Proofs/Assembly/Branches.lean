import Reprint.Proofs.Assembly.Levels
import Reprint.Proofs.Assembly.Rollback
import Reprint.Proofs.Doc.Induction

/-!
# The bracket tree of an assembly

A branch of a document is a leaf or a control node with the brackets around it.  The
branches of an assembly are those of its pieces, each inside the open brackets that it
was added to, as if all of them were closed (`branches`).

Adding a piece adds its branches inside the brackets that are open, and opening or
closing a bracket changes none of them: what closing puts around the pieces is what was
around them already.  So the document that comes out has, in order, the branches of all
that was added, each inside the brackets that were open then (`finish_branches`).
-/

namespace Reprint

/-! ## Branches of documents -/

/-- A leaf or a control node and the brackets around it, outermost first. -/
structure Branch where
  around : List Bracket
  tip : Doc

namespace Doc

mutual

/-- The branches of a document that stands inside brackets, in order.  What a control
node carries has no branches of its own. -/
def branches (around : List Bracket) : Doc → List Branch
  | .empty => []
  | .leaf l => [⟨around, .leaf l⟩]
  | .group body => body.branches (around ++ [.group])
  | .indent amount body => body.branches (around ++ [.indent amount])
  | .seq parts => branchesAll around parts
  | .join items separator => branchesAll (around ++ [.join separator]) items
  | .after spacing => [⟨around, .after spacing⟩]
  | .before spacing => [⟨around, .before spacing⟩]
  | .slot spacing trivia required => [⟨around, .slot spacing trivia required⟩]
termination_by structural d => d

def branchesAll (around : List Bracket) : List Doc → List Branch
  | [] => []
  | d :: ds => d.branches around ++ branchesAll around ds
termination_by structural ds => ds

end

theorem branchesAll_eq_flatMap (around : List Bracket) (ds : List Doc) :
    branchesAll around ds = ds.flatMap (branches around) := by
  induction ds with
  | nil => rfl
  | cons d ds ih => rw [branchesAll, List.flatMap_cons, ih]

@[simp] theorem branches_seq (around : List Bracket) (parts : List Doc) :
    (Doc.seq parts).branches around = parts.flatMap (branches around) := by
  rw [branches, branchesAll_eq_flatMap]

/-- Opening sequences and leaving out empty parts loses no branch. -/
@[simp] theorem branches_concat (around : List Bracket) (ds : List Doc) :
    (concat ds).branches around = ds.flatMap (branches around) :=
  flatMap_concat rfl (branches_seq around) ds

end Doc

/-- A bracket stands innermost around the pieces that it is put around. -/
theorem Bracket.branches_wrap (b : Bracket) (pieces : List Doc) (around : List Bracket) :
    (b.wrap pieces).branches around = pieces.flatMap (Doc.branches (around ++ [b])) := by
  cases b with
  | group => rw [wrap, Doc.branches, Doc.branches_concat]
  | indent amount => rw [wrap, Doc.branches, Doc.branches_concat]
  | join separator =>
    have items := Doc.flatMap_items rfl (Doc.branches_seq (around ++ [.join separator]))
    rw [wrap, Doc.branches, Doc.branchesAll_eq_flatMap, items, Doc.branches_concat]

namespace Assembly

/-! ## Branches of assemblies -/

/-- The branches of the pieces in open frames, innermost frame first. -/
def frameBranches : List Frame → List Branch
  | [] => []
  | frame :: outer =>
    frameBranches outer ++
      frame.pieces.toList.flatMap (Doc.branches ((frame :: outer).map (·.bracket)).reverse)

/-- The branches of all pieces in the order in which they were added, each inside the
brackets of its frame and of those around it. -/
def branches (a : Assembly) : List Branch :=
  a.root.toList.flatMap (Doc.branches []) ++ frameBranches a.frames

@[simp] theorem branches_record (a : Assembly) (u : Undo) : (a.record u).branches = a.branches := by
  rw [branches, branches, root_record, frames_record]

@[simp] theorem brackets_record (a : Assembly) (u : Undo) : (a.record u).brackets = a.brackets := by
  rw [brackets, brackets, frames_record]

/-- Pieces that are added to the innermost frame stand inside all open brackets. -/
theorem branches_modifyTop {f : Pieces → Pieces} {added : List Doc} (a : Assembly)
    (appends : (f a.top).toList = a.top.toList ++ added) :
    (a.modifyTop f).branches = a.branches ++ added.flatMap (Doc.branches a.brackets.reverse) := by
  obtain ⟨root, frames, journal, marks⟩ := a
  cases frames with
  | nil =>
    have appends : (f root).toList = root.toList ++ added := appends
    simp [modifyTop, branches, frameBranches, brackets, appends]
  | cons frame outer =>
    have appends : (f frame.pieces).toList = frame.pieces.toList ++ added := appends
    simp [modifyTop, branches, frameBranches, brackets, appends]

theorem branches_push (a : Assembly) (d : Doc) (trivia : Bool) :
    (a.push d trivia).branches = a.branches ++ d.branches a.brackets.reverse := by
  rw [push, branches_modifyTop _ (Pieces.toList_push _ d trivia), branches_record, brackets_record,
    List.flatMap_singleton]

theorem branches_openBracket (a : Assembly) (b : Bracket) :
    (a.openBracket b).branches = a.branches := by
  simp [openBracket, branches, frameBranches, Pieces.toList]

/-- Closing a bracket moves no branch. -/
theorem branches_of_closeBracket {a b : Assembly} {name : BracketName}
    (closed : a.closeBracket name = .ok b) : b.branches = a.branches := by
  obtain ⟨root, frames, journal, marks⟩ := a
  cases frames with
  | nil => cases closed
  | cons frame outer =>
    simp only [closeBracket_eq] at closed
    split_ifs at closed
    obtain rfl := Except.ok.inj closed
    rw [branches_modifyTop _ (Pieces.toList_push _ _ _), branches_record, brackets_record,
      List.flatMap_singleton, Bracket.branches_wrap]
    simp [branches, frameBranches, brackets]

/-- Merging adds the branches of the other assembly, which has no open brackets. -/
theorem branches_of_merge {a b other : Assembly} (merged : a.merge other = .ok b) :
    b.branches = a.branches ++ other.root.toList.flatMap (Doc.branches a.brackets.reverse) := by
  rw [merge_eq] at merged
  split at merged
  · cases merged
  · split_ifs at merged with nothing
    · obtain rfl := Except.ok.inj merged
      simp [Pieces.toList, List.isEmpty_iff.1 nothing]
    · obtain rfl := Except.ok.inj merged
      have appends := Pieces.toList_append (a.record (.extended a.top.recent.length a.lastWasTrivia)).top
        other.root
      rw [← branches_record a, ← brackets_record a]
      exact branches_modifyTop _ appends

/-! ## What a change should do -/

namespace Change

/-- Whether a change has to fail where these brackets are open, innermost first: the
innermost one has another name or there is none, or an assembly with open brackets is
merged. -/
def Fails (opened : List Bracket) : Change → Prop
  | .closing name => ∀ b ∈ opened.head?, b.name ≠ name
  | .merging other => other.frames ≠ []
  | .content _ | .trivia _ | .control _ | .opening _ => False

/-- The brackets that are open after a change. -/
def opens (opened : List Bracket) : Change → List Bracket
  | .opening b => b :: opened
  | .closing name =>
    match opened with
    | b :: outer => if b.name = name then outer else opened
    | [] => []
  | .content _ | .trivia _ | .control _ | .merging _ => opened

/-- The documents that a change adds. -/
def adds : Change → List Doc
  | .content d | .trivia d | .control d => [d]
  | .merging other => if other.isClosed then other.root.toList else []
  | .opening _ | .closing _ => []

/-- The brackets that are open after some changes. -/
def opensAll (opened : List Bracket) (changes : List Change) : List Bracket := changes.foldl opens opened

/-- The branches of the documents that changes add, in order, each inside the brackets
that are open when it is added. -/
def branches (opened : List Bracket) : List Change → List Branch
  | [] => []
  | c :: cs => c.adds.flatMap (Doc.branches opened.reverse) ++ branches (c.opens opened) cs

end Change

/-! ## What it does -/

/-- A bracket fails to close where another one, or none, is innermost. -/
theorem exists_closeBracket_error {a : Assembly} {name : BracketName} :
    (∃ e, a.closeBracket name = .error e) ↔ ∀ b ∈ a.brackets.head?, b.name ≠ name := by
  obtain ⟨root, frames, journal, marks⟩ := a
  cases frames with
  | nil => simp [closeBracket_eq, brackets]
  | cons frame outer =>
    by_cases same : frame.bracket.name = name
    · simp [closeBracket_eq, brackets, same]
    · simp [closeBracket_eq, brackets, same]

theorem exists_merge_error {a other : Assembly} :
    (∃ e, a.merge other = .error e) ↔ other.frames ≠ [] := by
  constructor
  · rintro ⟨e, failed⟩ closed
    obtain ⟨b, merged, -⟩ := exists_merge a closed
    rw [failed] at merged
    cases merged
  · intro opened
    cases merged : a.merge other with
    | error e => exact ⟨e, rfl⟩
    | ok b => exact absurd (exists_of_merge merged).1 opened

/-- A change fails where it has to, and only there. -/
theorem exists_attempt_error (a : Assembly) (c : Change) :
    (∃ e, a.attempt c = .error e) ↔ c.Fails a.brackets := by
  cases c with
  | content | trivia | control | opening => simp [attempt, Change.Fails]
  | closing name => exact exists_closeBracket_error
  | merging other => exact exists_merge_error

theorem brackets_change (a : Assembly) (c : Change) : (a.change c).brackets = c.opens a.brackets := by
  cases c with
  | content d => exact brackets_push a d _
  | trivia d => exact brackets_push a d _
  | control d => exact brackets_push a d _
  | opening bracket => exact brackets_openBracket a bracket
  | closing name =>
    cases opened : a.brackets with
    | nil =>
      have none : ∀ b ∈ a.brackets.head?, b.name ≠ name := by simp [opened]
      obtain ⟨e, failed⟩ := exists_closeBracket_error.2 none
      rw [change_of_error (c := .closing name) failed, opened]
      rfl
    | cons bracket outer =>
      by_cases same : bracket.name = name
      · obtain ⟨b, closed, left⟩ := exists_closeBracket opened
        rw [same] at closed
        rw [change_of_ok (c := .closing name) closed, left]
        exact (if_pos same).symm
      · have other : ∀ b ∈ a.brackets.head?, b.name ≠ name := by simp [opened, same]
        obtain ⟨e, failed⟩ := exists_closeBracket_error.2 other
        rw [change_of_error (c := .closing name) failed, opened]
        exact (if_neg same).symm
  | merging other =>
    cases made : a.attempt (.merging other) with
    | error e => rw [change_of_error made, Change.opens]
    | ok b => rw [change_of_ok made, Change.opens, (exists_of_merge made).2.2.1]

theorem branches_change (a : Assembly) (c : Change) :
    (a.change c).branches = a.branches ++ c.adds.flatMap (Doc.branches a.brackets.reverse) := by
  cases c with
  | content d | trivia d | control d =>
    rw [Change.adds, List.flatMap_singleton]
    exact branches_push a d _
  | opening bracket =>
    rw [Change.adds, List.flatMap_nil, List.append_nil]
    exact branches_openBracket a bracket
  | closing name =>
    rw [Change.adds, List.flatMap_nil, List.append_nil]
    cases made : a.attempt (.closing name) with
    | error e => rw [change_of_error made]
    | ok b => rw [change_of_ok made, branches_of_closeBracket made]
  | merging other =>
    cases made : a.attempt (.merging other) with
    | error e =>
      have opened : other.frames ≠ [] := exists_merge_error.1 ⟨e, made⟩
      rw [change_of_error made]
      simp [Change.adds, isClosed, opened]
    | ok b =>
      rw [change_of_ok made, branches_of_merge made]
      simp [Change.adds, isClosed, (exists_of_merge made).1]

/-! ## Runs of changes -/

theorem brackets_foldl_change (changes : List Change) (a : Assembly) :
    (changes.foldl change a).brackets = Change.opensAll a.brackets changes := by
  induction changes generalizing a with
  | nil => rfl
  | cons c cs ih =>
    rw [List.foldl_cons, ih, brackets_change]
    rfl

theorem branches_foldl_change (changes : List Change) (a : Assembly) :
    (changes.foldl change a).branches = a.branches ++ Change.branches a.brackets changes := by
  induction changes generalizing a with
  | nil => simp [Change.branches]
  | cons c cs ih =>
    rw [List.foldl_cons, ih, branches_change, brackets_change, Change.branches, List.append_assoc]

/-- A finished document has the branches of its assembly. -/
theorem branches_of_finish {a : Assembly} {d : Doc} (finished : a.finish = .ok d) :
    d.branches [] = a.branches := by
  obtain ⟨closed, rfl⟩ := finish_eq_ok.1 finished
  rw [Doc.branches_concat, docs_of_frames_eq_nil closed, branches, closed, frameBranches, List.append_nil]

/-- After any changes to an empty assembly the next one fails exactly where it has to,
and then leaves the assembly as it was.  The document can be finished exactly if all
brackets that were opened are closed again, and then it has the branches of all that was
added, in order, each inside the brackets that were open when it was added. -/
theorem finish_branches (changes : List Change) :
    let a := changes.foldl change {}
    let opened := Change.opensAll [] changes
    (∀ c, (∃ e, a.attempt c = .error e) ↔ c.Fails opened) ∧
      (∀ c e, a.attempt c = .error e → a.change c = a) ∧
      ((∃ d, a.finish = .ok d) ↔ opened = []) ∧
      ∀ d, a.finish = .ok d → d.branches [] = Change.branches [] changes := by
  intro a opened
  have brackets : a.brackets = opened := brackets_foldl_change changes {}
  refine ⟨?_, fun c e failed => change_of_error failed, ?_, ?_⟩
  · intro c
    rw [← brackets]
    exact exists_attempt_error a c
  · rw [← brackets, brackets_eq_nil]
    simp [finish_eq_ok]
  · intro d finished
    rw [branches_of_finish finished]
    exact branches_foldl_change changes {}

/-- A group and an indentation that do not close in the wrong order, an assembly that
is still open and is not merged, one that is merged, and a join inside the group. -/
theorem finish_branches_nested :
    let other : Assembly := { root := ⟨[.seq [.text "d", .empty, .group (.text "e")]], false⟩ }
    let changes : List Change := [.content (.text "a"), .opening .group, .content (.text "b"),
      .opening (.indent none), .control (.after .line), .closing .group, .trivia (.comment "c"),
      .merging (({} : Assembly).change (.opening .group)), .merging other, .closing .indent,
      .opening (.join .space), .content (.text "f"), .closing .join, .closing .group]
    let a := changes.foldl change {}
    ((∃ e, a.attempt (.closing .join) = .error e) ∧ a.change (.closing .join) = a) ∧
      ∃ d, a.finish = .ok d ∧ d.branches [] =
        [⟨[], .text "a"⟩, ⟨[.group], .text "b"⟩, ⟨[.group, .indent none], .after .line⟩,
          ⟨[.group, .indent none], .comment "c"⟩, ⟨[.group, .indent none], .text "d"⟩,
          ⟨[.group, .indent none, .group], .text "e"⟩, ⟨[.group, .join .space], .text "f"⟩] := by
  intro other changes a
  obtain ⟨fails, unchanged, closed, branches⟩ := finish_branches changes
  obtain ⟨e, failed⟩ := (fails (.closing .join)).2 (by rintro b ⟨⟩)
  obtain ⟨d, finished⟩ := closed.2 rfl
  exact ⟨⟨⟨_, failed⟩, unchanged _ _ failed⟩, d, finished, branches d finished⟩

end Assembly

end Reprint
