import Mathlib.Data.List.TakeWhile
import Reprint.Proofs.Layout.Printing

/-!
# Groups that fit

A group is printed flat if nothing in it ends a line and there are enough columns left for it.
How many it needs is measured on the document alone, and a group inside is measured once more
where printing comes to it.  The measure is right: a flat group writes just that many
characters on the line, whatever groups are in it, and so ends within the width
(`Job.mode_of_group`).
-/

namespace Reprint

/-! ## The column of the page -/

namespace Page

/-- The column at the end of a page, counted on its text, with the indentation that is owed. -/
def endColumn (page : Page) : Nat := lastLine page.text.toList + page.owed.getD 0

theorem lastLine_append_of_mem {xs ys : List Char} (ends : '\n' ∈ ys) :
    lastLine (xs ++ ys) = lastLine ys := by
  rw [lastLine, lastLine, List.reverse_append, List.takeWhile_append, if_neg]
  intro whole
  have all := (List.takeWhile_prefix fun c => decide (c ≠ '\n')).eq_of_length whole
  have newline : '\n' ∈ ys.reverse.takeWhile fun c => decide (c ≠ '\n') := by
    rw [all]
    exact List.mem_reverse.2 ends
  simpa using List.mem_takeWhile_imp newline

theorem lastLine_append_of_not_mem {xs ys : List Char} (line : '\n' ∉ ys) :
    lastLine (xs ++ ys) = lastLine xs + ys.length := by
  have all : ∀ c ∈ ys.reverse, decide (c ≠ '\n') = true := by
    intro c member
    refine decide_eq_true ?_
    rintro rfl
    exact line (List.mem_reverse.1 member)
  rw [lastLine, List.reverse_append, List.takeWhile_append_of_pos all, List.length_append,
    List.length_reverse, Nat.add_comm, lastLine]

theorem column_write {page : Page} (right : page.column = page.endColumn) (s : String) :
    (page.write s).column = (page.write s).endColumn := by
  unfold write
  split_ifs with empty ends
  · exact right
  · simp [endColumn, lastLine_append_of_mem ends, -List.append_assoc]
  · have margin : '\n' ∉ List.replicate (page.owed.getD 0) ' ' := by simp
    simp [endColumn, lastLine_append_of_not_mem ends, lastLine_append_of_not_mem margin, right,
      String.length_toList, -List.append_assoc]

theorem column_endLines (page : Page) {count : Nat} (some : 0 < count) (margin : Nat) :
    (page.endLines count margin).column = (page.endLines count margin).endColumn := by
  have none : lastLine (page.text.toList ++ List.replicate count '\n') = 0 := by
    obtain ⟨n, rfl⟩ := Nat.exists_eq_add_one_of_ne_zero some.ne'
    rw [lastLine_append_of_mem (List.mem_replicate.2 ⟨n.succ_ne_zero, rfl⟩), lastLine,
      List.reverse_replicate, List.replicate_succ]
    rfl
  simp [endLines, endColumn, none]

end Page

/-! ## The measure -/

namespace Leaf

/-- The columns of a leaf on a flat line. -/
def columns : Leaf → Nat
  | .text s | .comment s => s.length
  | .line | .space => 1
  | .softline | .hardline _ => 0

/-- Whether a leaf ends a line even if the line is flat. -/
def endsLine : Leaf → Bool
  | .text s | .comment s => '\n' ∈ s.toList
  | .line | .space | .softline => false
  | .hardline _ => true

end Leaf

namespace Doc

mutual

/-- The columns of a document on a flat line: those of its leaves outside control nodes, and
of the separator for each two items of a join. -/
def columns : Doc → Nat
  | .empty | .after _ | .before _ | .slot .. => 0
  | .leaf l => l.columns
  | .group body => body.columns
  | .indent _ body => body.columns
  | .seq parts => columnsAll parts
  | .join items separator => columnsAll items + (items.length - 1) * separator.columns
termination_by structural d => d

def columnsAll : List Doc → Nat
  | [] => 0
  | d :: ds => d.columns + columnsAll ds
termination_by structural ds => ds

end

mutual

/-- Whether a hard line end or a text with a line end stands in a document outside control
nodes; the separator of a join counts only if there are two items. -/
def endsLine : Doc → Bool
  | .empty | .after _ | .before _ | .slot .. => false
  | .leaf l => l.endsLine
  | .group body => body.endsLine
  | .indent _ body => body.endsLine
  | .seq parts => anyEndsLine parts
  | .join items separator => anyEndsLine items || (1 < items.length && separator.endsLine)
termination_by structural d => d

def anyEndsLine : List Doc → Bool
  | [] => false
  | d :: ds => d.endsLine || anyEndsLine ds
termination_by structural ds => ds

end

theorem anyEndsLine_eq_false_iff {ds : List Doc} :
    anyEndsLine ds = false ↔ ∀ d ∈ ds, d.endsLine = false := by
  induction ds with
  | nil => simp [anyEndsLine]
  | cons d ds ih => rw [anyEndsLine, Bool.or_eq_false_iff, ih, List.forall_mem_cons]

theorem flatWidths_eq {ds : List Doc}
    (each : ∀ d ∈ ds, d.flatWidth = if d.endsLine then none else some d.columns) :
    flatWidths ds = if anyEndsLine ds then none else some (columnsAll ds) := by
  induction ds with
  | nil => rfl
  | cons d ds ih =>
    obtain ⟨first, others⟩ := List.forall_mem_cons.1 each
    rw [flatWidths, first, ih others, anyEndsLine, columnsAll]
    cases d.endsLine <;> cases anyEndsLine ds <;> rfl

/-- What is measured is the number of columns, unless something ends a line. -/
theorem flatWidth_eq (d : Doc) : d.flatWidth = if d.endsLine then none else some d.columns := by
  induction d with
  | empty | after | before | slot => rfl
  | leaf l => cases l <;> simp [flatWidth, Leaf.flatWidth, endsLine, Leaf.endsLine, columns, Leaf.columns]
  | group body ih => exact ih
  | indent amount body ih => exact ih
  | seq parts ih => exact flatWidths_eq ih
  | join items separator ih own =>
    rw [flatWidth, flatWidths_eq ih, own, repeatWidth, endsLine, columns]
    by_cases single : items.length - 1 = 0
    · have few : ¬1 < items.length := by omega
      cases anyEndsLine items <;> simp [single, few, addWidths]
    · have several : 1 < items.length := by omega
      cases anyEndsLine items <;> cases separator.endsLine <;> simp [single, several, addWidths]

theorem fits_iff (width column : Nat) (d : Doc) :
    d.fits width column ↔ d.endsLine = false ∧ column + d.columns ≤ width := by
  rw [fits, flatWidth_eq]
  cases d.endsLine <;> simp

end Doc

/-! ## Flat lines -/

namespace Page

theorem column_write_of_not_mem (page : Page) {s : String} (line : '\n' ∉ s.toList) :
    (page.write s).column = page.column + s.length := by
  unfold write
  split_ifs with empty
  · rw [String.isEmpty_iff.1 empty]
    rfl
  · rfl

/-- Two texts are written on one line like one. -/
theorem write_write (page : Page) {s t : String} (line : '\n' ∉ s.toList) (line' : '\n' ∉ t.toList) :
    (page.write s).write t = page.write (s ++ t) := by
  by_cases first : s = ""
  · simp [first, write]
  · by_cases second : t = ""
    · simp [second, write]
    · simp [write, first, second, line, line', String.append_assoc, Nat.add_assoc]

end Page

/-- A step that puts a number of characters on the line, if they fit in the width. -/
def WritesLine (width : Nat) (step : Page → Page) (columns : Nat) : Prop :=
  ∀ page : Page, page.column + columns ≤ width →
    ∃ s : String, '\n' ∉ s.toList ∧ s.length = columns ∧ step page = page.write s

namespace WritesLine

variable {width m n : Nat} {f g : Page → Page}

theorem nothing : WritesLine width id 0 := fun _ _ => ⟨"", by simp, rfl, rfl⟩

theorem write {s : String} (line : '\n' ∉ s.toList) : WritesLine width (·.write s) s.length :=
  fun _ _ => ⟨s, line, rfl, rfl⟩

theorem comp (first : WritesLine width f m) (second : WritesLine width g n) :
    WritesLine width (fun page => g (f page)) (m + n) := by
  intro page fits
  obtain ⟨s, line, size, printed⟩ := first page (by omega)
  obtain ⟨t, line', size', printed'⟩ := second (f page) (by
    rw [printed, page.column_write_of_not_mem line, size]
    omega)
  refine ⟨s ++ t, by simp [line, line'], by rw [String.length_append, size, size'], ?_⟩
  exact printed'.trans (by rw [printed, page.write_write line line'])

end WritesLine

namespace Doc

theorem writesLine_leaf {l : Leaf} (line : l.endsLine = false) (width margin : Nat) :
    WritesLine width (l.print .flat margin) l.columns := by
  cases l with
  | text s | comment s => exact .write (of_decide_eq_false line)
  | line | space => exact .write (s := " ") (by decide)
  | softline => exact .nothing
  | hardline => cases line

theorem writesLine_printAll {layout : Layout} {width margin : Nat} {ds : List Doc}
    (each : ∀ d ∈ ds, WritesLine width (d.print layout .flat margin) d.columns) :
    WritesLine width (printAll layout .flat margin ds) (columnsAll ds) := by
  induction ds with
  | nil => exact .nothing
  | cons d ds ih =>
    obtain ⟨first, others⟩ := List.forall_mem_cons.1 each
    exact first.comp (ih others)

theorem writesLine_printJoin {layout : Layout} {width margin w : Nat} {separator : Page → Page}
    {items : List Doc} (each : ∀ d ∈ items, WritesLine width (d.print layout .flat margin) d.columns)
    (between : 1 < items.length → WritesLine width separator w) :
    WritesLine width (printJoin layout .flat margin separator items)
      (columnsAll items + (items.length - 1) * w) := by
  induction items with
  | nil =>
    have nothing : WritesLine width (printJoin layout .flat margin separator []) 0 := .nothing
    simpa [columnsAll] using nothing
  | cons d ds ih =>
    obtain ⟨first, others⟩ := List.forall_mem_cons.1 each
    cases ds with
    | nil =>
      have alone : WritesLine width (printJoin layout .flat margin separator [d]) d.columns := first
      simpa [columnsAll] using alone
    | cons e ds =>
      have gap := between (by simp)
      have sum : d.columns + (w + (columnsAll (e :: ds) + ((e :: ds).length - 1) * w))
          = columnsAll (d :: e :: ds) + ((d :: e :: ds).length - 1) * w := by
        simp only [columnsAll, List.length_cons, Nat.add_sub_cancel, Nat.succ_mul]
        omega
      rw [← sum]
      exact first.comp (gap.comp (ih others fun _ => gap))

/-- A flat document writes as many characters on the line as it has columns, if nothing in it
ends a line and they fit. -/
theorem writesLine_print (layout : Layout) {d : Doc} (line : d.endsLine = false) (margin : Nat) :
    WritesLine layout.width.toNat (d.print layout .flat margin) d.columns := by
  induction d generalizing margin with
  | empty | after | before | slot => exact .nothing
  | leaf l => exact writesLine_leaf line _ margin
  | group body ih =>
    intro page fits
    -- What is left for the group is left for each group inside.
    have flat := (fits_iff layout.width.toNat page.column body).2 ⟨line, fits⟩
    rw [print, if_pos flat]
    exact ih line margin page fits
  | indent amount body ih => exact ih line _
  | seq parts ih =>
    have line := anyEndsLine_eq_false_iff.1 line
    exact writesLine_printAll fun d member => ih d member (line d member) margin
  | join items separator ih between =>
    obtain ⟨inner, gaps⟩ := Bool.or_eq_false_iff.1 line
    have inner := anyEndsLine_eq_false_iff.1 inner
    refine writesLine_printJoin (fun d member => ih d member (inner d member) margin) ?_
    intro several
    refine between ?_ margin
    simpa [several] using gaps

end Doc

/-! ## Groups -/

namespace Job

variable {layout : Layout}

theorem keeps_column (job : Job) : Keeps layout (fun page => page.column = page.endColumn) job :=
  keeps_of_steps (fun _ s right => Page.column_write right s)
    (fun page _ margin some _ => page.column_endLines some margin) job

/-- Wherever printing comes to, the column that is kept is the one of the text so far. -/
theorem column_of_reaches {d : Doc} {job : Job} (reached : Reaches layout (start d) job) :
    job.page.column = job.page.endColumn := (keeps_column (start d)).page reached rfl

/-- A group that printing comes to is printed flat exactly if nothing in it ends a line and
its columns are left in the width.  What a flat group writes, with all groups that are in it,
stays on the line: as many characters as were measured, after the indentation that is owed. -/
theorem mode_of_group {d body : Doc} {mode : Mode} {margin : Nat} {page : Page}
    (reached : Reaches layout (start d) ⟨.group body, mode, margin, page⟩) :
    ∃ own : Mode,
      (Job.mk (.group body) mode margin page).result layout = (Job.mk body own margin page).result layout ∧
      (∀ part, Comes layout ⟨.group body, mode, margin, page⟩ part ↔ part = ⟨body, own, margin, page⟩) ∧
      (own = .flat ↔ body.endsLine = false ∧ page.endColumn + body.columns ≤ layout.width.toNat) ∧
      (own = .flat →
        let done := (Job.mk (.group body) mode margin page).result layout
        ∃ written : List Char, '\n' ∉ written ∧ body.flatWidth = some written.length ∧
          done.text.toList = page.text.toList
            ++ (if written = [] then [] else List.replicate (page.owed.getD 0) ' ') ++ written ∧
          done.endColumn = page.endColumn + written.length ∧
          done.endColumn ≤ layout.width.toNat) := by
  have right : page.column = page.endColumn := column_of_reaches reached
  have right' : ((Job.mk (.group body) mode margin page).result layout).column = _ :=
    (keeps_column _).result right
  have fits := Doc.fits_iff layout.width.toNat page.column body
  refine ⟨if body.fits layout.width.toNat page.column then .flat else .broken, rfl, ?_, ?_, ?_⟩
  · intro part
    refine ⟨fun comes => ?_, fun same => same ▸ .group⟩
    cases comes
    rfl
  · rw [← right, ← fits]
    split_ifs with flat <;> simp [flat]
  · intro flat
    obtain ⟨line, room⟩ := fits.1 (by by_contra broken; simp [broken] at flat)
    obtain ⟨s, inLine, size, printed⟩ :=
      Doc.writesLine_print layout (d := .group body) line margin page room
    have result : (Job.mk (.group body) mode margin page).result layout = page.write s := printed
    have column : (page.write s).endColumn = page.endColumn + s.toList.length := by
      rw [result] at right'
      rw [← right', page.column_write_of_not_mem inLine, right, String.length_toList]
    have measured : s.toList.length = body.columns := String.length_toList.trans size
    rw [result]
    refine ⟨s.toList, inLine, by rw [Doc.flatWidth_eq, line, measured]; rfl, ?_, column, ?_⟩
    · unfold Page.write
      by_cases empty : s = "" <;> simp [empty]
    · rw [column, measured, ← right]
      exact room

/-- A group that begins a line with four columns of indentation and has three of its own is
printed flat in a width of eight, and ends in column seven. -/
theorem mode_of_group_pair :
    let pair : Doc := .seq [.text "a", .line, .group (.seq [.text "b", .softline])]
    let whole : Doc := .indent none (.seq [.hardline 0, .group pair, .hardline 0])
    let page : Page := ({} : Page).endLines 1 4
    let job : Job := ⟨.group pair, .broken, 4, page⟩
    Reaches { width := 8 } (start whole) job ∧ page.endColumn = 4 ∧
      Comes { width := 8 } job ⟨pair, .flat, 4, page⟩ ∧ (job.result { width := 8 }).endColumn = 7 := by
  intro pair whole page job
  have reached : Reaches { width := 8 } (start whole) job :=
    .head .indent (.head .parts (.single .part))
  obtain ⟨own, -, only, decided, inLine⟩ := mode_of_group reached
  have column : page.endColumn = 4 := by decide
  have flat : own = .flat := decided.2 ⟨by decide, by rw [column]; decide⟩
  obtain ⟨written, -, measured, -, last, -⟩ := inLine flat
  have three : pair.flatWidth = some 3 := by decide
  have size : written.length = 3 := Option.some.inj (measured.symm.trans three)
  refine ⟨reached, column, (only _).2 (by rw [flat]), ?_⟩
  rw [last, column, size]

end Job

end Reprint
