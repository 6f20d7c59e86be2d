import Reprint.Proofs.Layout.Printing

/-!
# Lines of spaces

Indentation is owed to a line until its first text is written, so that a line without text has
none.  But the first text of a line may begin with a line end, and then the indentation is
written in front of that.  In a document whose texts have no spaces this is the only way to a
line that holds spaces and nothing else (`Doc.spaceLine_render_iff`).
-/

namespace Reprint

/-! ## Lines -/

/-- Whether a line holds one or more spaces and nothing else. -/
def SpaceLine (cs : List Char) : Prop := ∃ line ∈ cs.splitOn '\n', line ≠ [] ∧ ∀ c ∈ line, c = ' '

theorem spaceLine_append {xs ys : List Char} :
    SpaceLine (xs ++ '\n' :: ys) ↔ SpaceLine xs ∨ SpaceLine ys := by
  simp only [SpaceLine, List.splitOn_append_cons_self, List.mem_append, or_and_right, exists_or]

theorem spaceLine_of_line {line : List Char} (single : '\n' ∉ line) :
    SpaceLine line ↔ line ≠ [] ∧ ∀ c ∈ line, c = ' ' := by
  simp [SpaceLine, List.splitOn_eq_singleton single]

/-- A text has a last line. -/
theorem exists_lastLine (cs : List Char) :
    ∃ last, '\n' ∉ last ∧ (cs = last ∨ ∃ done, cs = done ++ '\n' :: last) := by
  induction cs with
  | nil => exact ⟨[], List.not_mem_nil, .inl rfl⟩
  | cons c cs ih =>
    obtain ⟨last, line, rfl | ⟨done, rfl⟩⟩ := ih
    · by_cases newline : c = '\n'
      · exact ⟨cs, line, .inr ⟨[], by rw [newline]; rfl⟩⟩
      · exact ⟨c :: cs, by simp [line, Ne.symm newline], .inl rfl⟩
    · exact ⟨last, line, .inr ⟨c :: done, rfl⟩⟩

/-- A line that goes on with a character that is no space holds more than spaces. -/
theorem not_spaceLine_of_line {line : List Char} (single : '\n' ∉ line) {c : Char} (inked : c ≠ ' ')
    (member : c ∈ line) : ¬SpaceLine line := by
  rw [spaceLine_of_line single]
  exact fun spaces => inked (spaces.2 c member)

theorem not_spaceLine_of_not_mem {ys : List Char} (unspaced : ' ' ∉ ys) : ¬SpaceLine ys := by
  have alone : ∀ line : List Char, '\n' ∉ line → ' ' ∉ line → ¬SpaceLine line := by
    intro line single unspaced
    rw [spaceLine_of_line single]
    rintro ⟨some, spaces⟩
    obtain ⟨c, member⟩ := List.exists_mem_of_ne_nil line some
    exact unspaced (spaces c member ▸ member)
  induction size : ys.length using Nat.strongRecOn generalizing ys with
  | ind n ih =>
    obtain ⟨last, line, rfl | ⟨done, rfl⟩⟩ := exists_lastLine ys
    · exact alone ys line unspaced
    · obtain ⟨front, back⟩ : ' ' ∉ done ∧ ' ' ∉ last := by simpa using unspaced
      rw [spaceLine_append, not_or]
      exact ⟨ih done.length (by simp [← size]) front rfl, alone last line back⟩

/-- A line of spaces is ended by a line end, or else goes on with other characters. -/
theorem spaceLine_line_append {line ys : List Char} (single : '\n' ∉ line) (unspaced : ' ' ∉ ys) :
    SpaceLine (line ++ ys) ↔ SpaceLine line ∧ (ys = [] ∨ ys.head? = some '\n') := by
  cases ys with
  | nil => simp
  | cons c ys =>
    obtain ⟨inked, unspaced⟩ : c ≠ ' ' ∧ ' ' ∉ ys := by simpa [eq_comm] using unspaced
    by_cases ends : c = '\n'
    · rw [ends, spaceLine_append, or_iff_left (not_spaceLine_of_not_mem unspaced)]
      simp
    · have other : ¬SpaceLine (line ++ c :: ys) := by
        by_cases newline : '\n' ∈ ys
        · obtain ⟨first, behind, rfl, within⟩ := List.eq_append_cons_of_mem newline
          have back : ' ' ∉ behind := fun member => unspaced (by simp [member])
          rw [← List.cons_append, ← List.append_assoc, spaceLine_append,
            or_iff_left (not_spaceLine_of_not_mem back)]
          exact not_spaceLine_of_line (by simp [single, within, Ne.symm ends]) inked (by simp)
        · exact not_spaceLine_of_line (by simp [single, newline, Ne.symm ends]) inked (by simp)
      simp [other, ends]

theorem not_spaceLine_append {xs ys : List Char} (none : ¬SpaceLine xs) (unspaced : ' ' ∉ ys) :
    ¬SpaceLine (xs ++ ys) := by
  obtain ⟨last, line, rfl | ⟨done, rfl⟩⟩ := exists_lastLine xs
  · rw [spaceLine_line_append line unspaced]
    exact fun spaces => none spaces.1
  · rw [spaceLine_append, not_or] at none
    rw [List.append_assoc, List.cons_append, spaceLine_append, spaceLine_line_append line unspaced]
    rintro (before | spaces)
    · exact none.1 before
    · exact none.2 spaces.1

/-! ## Pages -/

namespace Page

/-- Indentation is owed only to a line that nothing is written on yet. -/
def Fresh (page : Page) : Prop := 0 < page.owed.getD 0 → ∃ done, page.text.toList = done ++ ['\n']

theorem fresh_write {page : Page} (fresh : page.Fresh) (s : String) : (page.write s).Fresh := by
  unfold write
  split
  · exact fresh
  · intro owed
    cases owed

theorem fresh_endLines (page : Page) {count : Nat} (some : 0 < count) (margin : Nat) :
    (page.endLines count margin).Fresh := by
  intro _
  obtain ⟨n, rfl⟩ := Nat.exists_eq_add_one_of_ne_zero (Nat.ne_of_gt some)
  refine ⟨page.text.toList ++ List.replicate n '\n', ?_⟩
  simp [endLines, List.replicate_succ']

/-- What a text without spaces leaves on the page: a line of spaces exactly if it begins with
a line end and indentation is owed to it. -/
theorem spaceLine_write {page : Page} (fresh : page.Fresh) (none : ¬SpaceLine page.text.toList) {s : String}
    (unspaced : ' ' ∉ s.toList) :
    SpaceLine (page.write s).text.toList ↔ s.toList.head? = some '\n' ∧ 0 < page.owed.getD 0 := by
  by_cases empty : s = ""
  · simp [empty, write, none]
  rw [toList_write, if_neg (by simpa using empty), List.append_assoc]
  by_cases owed : 0 < page.owed.getD 0
  · obtain ⟨done, text⟩ := fresh owed
    have line : '\n' ∉ List.replicate (page.owed.getD 0) ' ' := by simp
    have margin : SpaceLine (List.replicate (page.owed.getD 0) ' ') := by
      rw [spaceLine_of_line line]
      exact ⟨by simpa using Nat.ne_of_gt owed, by simp⟩
    have above : ¬SpaceLine done := fun before => none (text ▸ spaceLine_append.2 (.inl before))
    rw [text, List.append_assoc, List.singleton_append, spaceLine_append, or_iff_right above,
      spaceLine_line_append line unspaced]
    simp [margin, owed, empty]
  · have zero : page.owed.getD 0 = 0 := by omega
    rw [zero]
    simpa using not_spaceLine_append none unspaced

end Page

/-! ## Documents -/

/-- Whether a leaf prints no space of its own. -/
def Leaf.isUnspaced : Leaf → Bool
  | .text s | .comment s => ' ' ∉ s.toList
  | .line | .space => false
  | .softline | .hardline _ => true

namespace Doc

mutual

/-- Whether a document prints no space but for its indentation: it has neither spaces nor breaks
that may become one, and no text with a space, outside control nodes. -/
def isUnspaced : Doc → Bool
  | .empty | .after _ | .before _ | .slot .. => true
  | .leaf l => l.isUnspaced
  | .group body => body.isUnspaced
  | .indent _ body => body.isUnspaced
  | .seq parts => allUnspaced parts
  | .join items separator => allUnspaced items && separator.isUnspaced
termination_by structural d => d

def allUnspaced : List Doc → Bool
  | [] => true
  | d :: ds => d.isUnspaced && allUnspaced ds
termination_by structural ds => ds

end

end Doc

namespace Job

variable {layout : Layout}

/-- A text that begins with a line end is to be printed where indentation is owed. -/
def MarksLineEnd (job : Job) : Prop :=
  ∃ s, (job.doc = .text s ∨ job.doc = .comment s) ∧ s.toList.head? = some '\n' ∧ 0 < job.page.owed.getD 0

theorem isUnspaced_of_reaches {job part : Job} (reached : Reaches layout job part)
    (unspaced : job.doc.isUnspaced) : part.doc.isUnspaced := by
  induction reached with
  | refl => exact unspaced
  | tail _ comes ih =>
    cases comes with
    | group | indent => exact ih
    | part => exact (Bool.and_eq_true_iff.1 ih).1
    | parts => exact (Bool.and_eq_true_iff.1 ih).2
    | item =>
      obtain ⟨items, -⟩ := Bool.and_eq_true_iff.1 ih
      exact (Bool.and_eq_true_iff.1 items).1
    | separator => exact (Bool.and_eq_true_iff.1 ih).2
    | items =>
      obtain ⟨items, between⟩ := Bool.and_eq_true_iff.1 ih
      exact Bool.and_eq_true_iff.2 ⟨(Bool.and_eq_true_iff.1 items).2, between⟩

theorem keeps_fresh (job : Job) : Keeps layout Page.Fresh job :=
  keeps_of_steps (fun _ s fresh => Page.fresh_write fresh s)
    (fun page _ margin some _ => page.fresh_endLines some margin) job

/-- Without a text that marks a line end in the indentation no line of spaces comes up. -/
theorem keeps_clean {job : Job} (unspaced : job.doc.isUnspaced)
    (none : ∀ part, Reaches layout job part → ¬part.MarksLineEnd) :
    Keeps layout (fun page => page.Fresh ∧ ¬SpaceLine page.text.toList) job := by
  rintro l mode margin page reached ⟨fresh, clean⟩
  refine ⟨keeps_fresh job l mode margin page reached fresh, ?_⟩
  have own : l.isUnspaced := isUnspaced_of_reaches reached unspaced
  have endLines : ∀ count, ¬SpaceLine (page.endLines count margin).text.toList := by
    intro count
    rw [Page.toList_endLines]
    exact not_spaceLine_append clean (by simp)
  cases l with
  | text s =>
    rw [Leaf.print, Page.spaceLine_write fresh clean (of_decide_eq_true own)]
    exact fun marks => none _ reached ⟨s, .inl rfl, marks⟩
  | comment s =>
    rw [Leaf.print, Page.spaceLine_write fresh clean (of_decide_eq_true own)]
    exact fun marks => none _ reached ⟨s, .inr rfl, marks⟩
  | line | space => cases own
  | softline =>
    cases mode with
    | flat => exact clean
    | broken => exact endLines 1
  | hardline blanks => exact endLines _

/-- The indentation in front of a line end stays a line of its own. -/
theorem spaceLine_of_marksLineEnd {job part : Job} (reached : Reaches layout job part)
    (fresh : job.page.Fresh) (marks : part.MarksLineEnd) : SpaceLine (job.result layout).text.toList := by
  obtain ⟨s, text, newline, owed⟩ := marks
  have written : part.result layout = part.page.write s := by
    obtain ⟨doc, mode, margin, page⟩ := part
    obtain rfl | rfl := text <;> rfl
  obtain ⟨done, above⟩ := (keeps_fresh job).page reached fresh owed
  obtain ⟨rest, content⟩ := List.head?_eq_some_iff.1 newline
  obtain ⟨behind, stays⟩ := prefix_of_reaches reached
  have some : ¬s.isEmpty := by
    intro empty
    rw [String.isEmpty_iff.1 empty] at content
    cases content
  rw [← stays, written, Page.toList_write, if_neg some, above, content]
  have line : '\n' ∉ List.replicate (part.page.owed.getD 0) ' ' := by simp
  simp only [List.append_assoc, List.nil_append, List.cons_append]
  rw [spaceLine_append, spaceLine_append, spaceLine_of_line line]
  exact .inr (.inl ⟨by simpa using Nat.ne_of_gt owed, by simp⟩)

end Job

/-- A document without spaces of its own prints a line of spaces exactly if printing comes to a
text that begins with a line end while indentation is owed to its line. -/
theorem Doc.spaceLine_render_iff (layout : Layout) {d : Doc} (unspaced : d.isUnspaced) :
    SpaceLine (d.render layout).toList
      ↔ ∃ job, Job.Reaches layout (.start d) job ∧ job.MarksLineEnd := by
  have fresh : (Job.start d).page.Fresh := fun owed => absurd owed (Nat.lt_irrefl 0)
  have text : d.render layout = ((Job.start d).result layout).text := rfl
  rw [text]
  refine ⟨fun spaces => ?_, fun ⟨job, reached, marks⟩ => Job.spaceLine_of_marksLineEnd reached fresh marks⟩
  by_contra none
  have keeps : (Job.start d).Keeps layout fun page => page.Fresh ∧ ¬SpaceLine page.text.toList :=
    Job.keeps_clean unspaced fun job reached marks => none ⟨job, reached, marks⟩
  exact (keeps.result ⟨fresh, not_spaceLine_of_not_mem List.not_mem_nil⟩).2 spaces

/-- A line end that is the first text of an indented line has the indentation in front of it. -/
theorem Doc.spaceLine_render_iff_block :
    let d : Doc := .seq [.text "do", .indent none (.seq [.hardline 1, .comment "\n#"]), .text "end"]
    d.isUnspaced ∧ (∃ job, Job.Reaches {} (.start d) job ∧ job.MarksLineEnd) ∧
      SpaceLine (d.render {}).toList := by
  intro d
  have unspaced : d.isUnspaced := by decide
  have marks : ∃ job, Job.Reaches {} (.start d) job ∧ job.MarksLineEnd :=
    ⟨⟨.comment "\n#", .broken, 4, (({} : Page).write "do").endLines 2 4⟩,
      .head .parts (.head .part (.head .indent (.head .parts (.single .part)))),
      "\n#", .inr rfl, by decide, by decide⟩
  exact ⟨unspaced, marks, (d.spaceLine_render_iff {} unspaced).2 marks⟩

/-- Not every document without spaces of its own is printed without lines of spaces. -/
theorem Doc.spaceLine_render_block :
    let d : Doc := .seq [.text "do", .indent none (.seq [.hardline 0, .text "\n"]), .text "end"]
    d.isUnspaced ∧ d.render {} = "do\n    \nend" ∧ SpaceLine (d.render {}).toList := by
  intro d
  have text : d.render {} = "do\n    \nend" := by decide
  have spaces : SpaceLine (d.render {}).toList := by
    rw [text]
    exact ⟨"    ".toList, by decide, by decide, by simp⟩
  exact ⟨by decide, text, spaces⟩

end Reprint
