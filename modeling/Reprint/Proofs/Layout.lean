import Reprint.Layout
import Reprint.Proofs.Doc.Final
import Reprint.Proofs.Doc.Script

/-!
# What a layout prints

A final document prints its leaves in order.  Where line ends come to stand and
how far lines are indented depends on the layout, so the text is compared with
the leaves in two ways: by the characters that are no white space
(`filter_render`), and exactly, for documents that hold nothing the layout has a
say in (`render_eq`).
-/

namespace Reprint

namespace Doc

/-! ## Documents without indentations -/

mutual

/-- Whether no indentation stands in a document outside control nodes. -/
def isLevel : Doc → Bool
  | .empty | .leaf _ | .after _ | .before _ | .slot .. => true
  | .group body => body.isLevel
  | .indent .. => false
  | .seq parts => allLevel parts
  | .join items _ => allLevel items
termination_by structural d => d

/-- Whether the same holds of all documents of a list. -/
def allLevel : List Doc → Bool
  | [] => true
  | d :: ds => d.isLevel && allLevel ds
termination_by structural ds => ds

end

theorem allLevel_iff {ds : List Doc} : allLevel ds ↔ ∀ d ∈ ds, d.isLevel := by
  induction ds with
  | nil => simp [allLevel]
  | cons d ds ih => rw [allLevel, Bool.and_eq_true, ih, List.forall_mem_cons]

theorem isLevel_concat {ds : List Doc} (all : ∀ d ∈ ds, d.isLevel) : (concat ds).isLevel :=
  holds_concat (P := fun d => d.isLevel) rfl allLevel_iff all

theorem hereditary_isLevel : Hereditary (fun d => d.isLevel) where
  group level := ⟨level, fun level' => level'⟩
  indent level := by cases level
  part level := allLevel_iff.1 level
  join level := ⟨allLevel_iff.1 level, rfl⟩
  concat := isLevel_concat

/-! ## Printing leaf by leaf -/

section Printing

variable {keep : Char → Bool} {M : Nat → Prop} {Sound : Page → Prop} {Q : Leaf → Prop}

/-- Behind what is on a page a step writes the given characters, as far as they
are looked at. -/
def Writes (keep : Char → Bool) (Sound : Page → Prop) (step : Page → Page) (chars : List Char) : Prop :=
  ∀ page, Sound page → Sound (step page) ∧
    (step page).text.toList.filter keep = page.text.toList.filter keep ++ chars

theorem writes_nothing : Writes keep Sound id [] := fun page sound => ⟨sound, by simp⟩

theorem Writes.comp {f g : Page → Page} {xs ys : List Char} (first : Writes keep Sound f xs)
    (second : Writes keep Sound g ys) : Writes keep Sound (fun page => g (f page)) (xs ++ ys) := by
  intro page sound
  obtain ⟨sound', text⟩ := first page sound
  obtain ⟨sound'', text'⟩ := second (f page) sound'
  exact ⟨sound'', by rw [text', text, List.append_assoc]⟩

theorem writes_printAll {layout : Layout} {mode : Mode} {margin : Nat} {ds : List Doc}
    {chars : Doc → List Char}
    (each : ∀ d ∈ ds, Writes keep Sound (d.print layout mode margin) (chars d)) :
    Writes keep Sound (printAll layout mode margin ds) (ds.flatMap chars) := by
  induction ds with
  | nil => exact writes_nothing
  | cons d ds ih =>
    obtain ⟨first, others⟩ := List.forall_mem_cons.1 each
    exact first.comp (ih others)

/-- A final document prints its leaves, if each leaf is printed so at every
margin that the document comes to. -/
theorem writes_print
    (leaf : ∀ l mode margin, Q l → M margin →
      Writes keep Sound (l.print mode margin) (l.plain.filter keep))
    (layout : Layout) {d : Doc} (final : d.isFinal) (level : d.isLevel ∨ ∀ m, M m) (mode : Mode)
    (margin : Nat) (allowed : M margin) (around : List Wrapper)
    (all : ∀ s ∈ d.strands (fun _ => []) around, Q s.leaf) :
    Writes keep Sound (d.print layout mode margin)
      (scriptOf keep (d.strands (fun _ => []) around)) := by
  induction d generalizing mode margin around with
  | empty => exact writes_nothing
  | leaf l =>
    have own : Q l := all _ List.mem_cons_self
    rw [strands, scriptOf, List.flatMap_singleton, Strand.leaf_within]
    exact leaf l mode margin own allowed
  | group body ih =>
    intro page
    exact ih final level _ _ allowed _ all page
  | indent amount body ih =>
    have anywhere := level.resolve_left (by simp [isLevel])
    exact ih final (.inr anywhere) mode _ (anywhere _) _ all
  | seq parts ih =>
    rw [strands_seq] at all ⊢
    rw [scriptOf_flatMap]
    refine writes_printAll fun d member => ?_
    refine ih d member (allFinal_iff.1 final d member) ?_ mode margin allowed around ?_
    · exact level.imp_left fun level => allLevel_iff.1 level d member
    · exact fun s inside => all s (List.mem_flatMap.2 ⟨d, member, inside⟩)
  | join | after | before | slot => cases final

end Printing

end Doc

/-! ## Characters that are no white space -/

theorem Page.toList_write (page : Page) (s : String) :
    (page.write s).text.toList = if s.isEmpty then page.text.toList
      else page.text.toList ++ List.replicate (page.owed.getD 0) ' ' ++ s.toList := by
  unfold Page.write
  by_cases empty : s.isEmpty
  · rw [if_pos empty, if_pos empty]
  · rw [if_neg empty, if_neg empty]
    simp

theorem Page.owed_write {page : Page} (unowed : page.owed.getD 0 = 0) (s : String) :
    (page.write s).owed.getD 0 = 0 := by
  unfold Page.write
  by_cases empty : s.isEmpty
  · rw [if_pos empty]
    exact unowed
  · rw [if_neg empty]
    rfl

theorem Page.toList_endLines (page : Page) (count margin : Nat) :
    (page.endLines count margin).text.toList = page.text.toList ++ List.replicate count '\n' := by
  simp [Page.endLines]

theorem Page.filter_inked_write (page : Page) (s : String) :
    (page.write s).text.toList.filter Text.inked
      = page.text.toList.filter Text.inked ++ s.toList.filter Text.inked := by
  rw [Page.toList_write]
  split_ifs with empty
  · rw [String.isEmpty_iff.1 empty]
    simp
  · rw [List.filter_append, List.filter_append, Doc.filter_inked_replicate_space, List.append_nil]

theorem Page.filter_inked_endLines (page : Page) (count margin : Nat) :
    (page.endLines count margin).text.toList.filter Text.inked = page.text.toList.filter Text.inked := by
  rw [Page.toList_endLines, List.filter_append, Doc.filter_inked_replicate_newline, List.append_nil]

theorem Leaf.writes_inked (l : Leaf) (mode : Mode) (margin : Nat) :
    Doc.Writes Text.inked (fun _ => True) (l.print mode margin) (l.plain.filter Text.inked) := by
  intro page _
  refine ⟨trivial, ?_⟩
  have space : " ".toList.filter Text.inked = [] := Doc.filter_inked_replicate_space 1
  cases l with
  | text s => exact page.filter_inked_write s
  | comment s => exact page.filter_inked_write s
  | space => exact page.filter_inked_write " "
  | line =>
    rw [Doc.filter_inked_plain rfl, List.append_nil]
    cases mode with
    | flat => exact (page.filter_inked_write " ").trans (by rw [space, List.append_nil])
    | broken => exact page.filter_inked_endLines 1 margin
  | softline =>
    rw [Doc.filter_inked_plain rfl, List.append_nil]
    cases mode with
    | flat => rfl
    | broken => exact page.filter_inked_endLines 1 margin
  | hardline blanks =>
    rw [Doc.filter_inked_plain rfl, List.append_nil]
    exact page.filter_inked_endLines _ margin

/-- A final document is printed with all its characters, whatever the layout. -/
theorem Doc.filter_render (layout : Layout) {d : Doc} (final : d.isFinal) :
    (d.render layout).toList.filter Text.inked = scriptOf Text.inked d.leaves := by
  have writes := writes_print (Q := fun _ => True) (M := fun _ => True)
    (fun l mode margin _ _ => l.writes_inked mode margin) layout final (.inr fun _ => trivial) .broken 0
    trivial [] fun _ _ => trivial
  exact (writes {} trivial).2

/-! ## All characters -/

/-- Leaves that are printed alike on all lines that are not indented. -/
def Leaf.isFixed : Leaf → Bool
  | .text _ | .comment _ | .space | .hardline _ => true
  | .line | .softline => false

theorem Leaf.writes_fixed {l : Leaf} (fixed : l.isFixed) (mode : Mode) {margin : Nat} (none : margin = 0) :
    Doc.Writes (fun _ => true) (fun page => page.owed.getD 0 = 0) (l.print mode margin)
      (l.plain.filter fun _ => true) := by
  have write : ∀ s : String,
      Doc.Writes (fun _ => true) (fun page => page.owed.getD 0 = 0) (·.write s) s.toList := by
    intro s page unowed
    refine ⟨page.owed_write unowed s, ?_⟩
    rw [List.filter_true, List.filter_true, page.toList_write, unowed]
    by_cases empty : s.isEmpty
    · rw [if_pos empty, String.isEmpty_iff.1 empty]
      simp
    · rw [if_neg empty]
      simp
  rw [List.filter_true]
  cases l with
  | text s => exact write s
  | comment s => exact write s
  | space => exact write " "
  | line | softline => cases fixed
  | hardline blanks =>
    intro page _
    rw [List.filter_true, List.filter_true, none]
    exact ⟨rfl, page.toList_endLines _ 0⟩

/-- A final document without indentations and without breaks that depend on the
layout is printed as it stands. -/
theorem Doc.render_eq (layout : Layout) {d : Doc} (final : d.isFinal) (level : d.isLevel)
    (fixed : ∀ s ∈ d.leaves, s.leaf.isFixed) :
    (d.render layout).toList = scriptOf (fun _ => true) d.leaves := by
  have writes := writes_print (M := (· = 0)) (Q := fun l => l.isFixed)
    (fun l mode margin fixed none => Leaf.writes_fixed fixed mode none) layout final (.inl level) .broken 0
    rfl [] fixed
  have text := (writes {} rfl).2
  rw [List.filter_true] at text
  exact text

end Reprint
