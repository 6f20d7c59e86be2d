import Reprint.Proofs.Doc.Parts
import Reprint.Proofs.Doc.Required

/-!
# Spacing needs a slot

The marks of a document are its leaves and its slots, in order.  Whatever spacing was asked
for, a rule that puts something down uses up a slot for it, and the runs of control nodes
never change places with leaves.  So the leaves of the resolved document are the marks of the
document with something, or nothing, in the place of each slot (`grows_resolve`): where
no slot stands, nothing is put (`leafList_resolve_of_marks`).
-/

namespace Reprint

/-! ## Marks -/

/-- What stands in a document outside control nodes: leaves, and the slots between them. -/
inductive Mark where
  | leaf (l : Leaf)
  | slot
  deriving DecidableEq, Repr

namespace Mark

/-- Something has come in the place of each slot, and every leaf has stayed.  Only a line end
written as text may have become a hard line end. -/
inductive Grows : List Mark → List Mark → Prop
  | nil : Grows [] []
  | leaf (l : Leaf) {ms ns : List Mark} : Grows ms ns → Grows (.leaf l :: ms) (.leaf l :: ns)
  | newline {ms ns : List Mark} :
      Grows ms ns → Grows (.leaf (.text "\n") :: ms) (.leaf (.hardline 0) :: ns)
  | slot (found : List Mark) {ms ns : List Mark} : Grows ms ns → Grows (.slot :: ms) (found ++ ns)

namespace Grows

variable {ms ms' ns ns' os : List Mark}

theorem refl (ms : List Mark) : Grows ms ms := by
  induction ms with
  | nil => exact .nil
  | cons m ms ih =>
    cases m with
    | leaf l => exact .leaf l ih
    | slot => exact .slot [.slot] ih

theorem append (left : Grows ms ns) (right : Grows ms' ns') : Grows (ms ++ ms') (ns ++ ns') := by
  induction left with
  | nil => exact right
  | leaf l _ ih => exact .leaf l ih
  | newline _ ih => exact .newline ih
  | slot found _ ih =>
    rw [List.append_assoc]
    exact .slot found ih

/-- Lists that are put together grow one by one. -/
theorem exists_of_append (grows : Grows (ms ++ ms') os) :
    ∃ ns ns', os = ns ++ ns' ∧ Grows ms ns ∧ Grows ms' ns' := by
  induction ms generalizing os with
  | nil => exact ⟨[], os, rfl, .nil, grows⟩
  | cons m ms ih =>
    cases grows with
    | leaf l rest =>
      obtain ⟨ns, ns', rfl, first, second⟩ := ih rest
      exact ⟨_, ns', rfl, .leaf l first, second⟩
    | newline rest =>
      obtain ⟨ns, ns', rfl, first, second⟩ := ih rest
      exact ⟨_, ns', rfl, .newline first, second⟩
    | slot found rest =>
      obtain ⟨ns, ns', rfl, first, second⟩ := ih rest
      exact ⟨found ++ ns, ns', (List.append_assoc ..).symm, .slot found first, second⟩

theorem trans (first : Grows ms ns) (second : Grows ns os) : Grows ms os := by
  induction first generalizing os with
  | nil => exact second
  | leaf l _ ih =>
    cases second with
    | leaf _ rest => exact .leaf l (ih rest)
    | newline rest => exact .newline (ih rest)
  | newline _ ih =>
    cases second with
    | leaf _ rest => exact .newline (ih rest)
  | slot found _ ih =>
    obtain ⟨found', rest, rfl, -, behind⟩ := exists_of_append second
    exact .slot found' (ih behind)

theorem flatMap {α : Type} {f g : α → List Mark} {xs : List α} (all : ∀ x ∈ xs, Grows (f x) (g x)) :
    Grows (xs.flatMap f) (xs.flatMap g) := by
  induction xs with
  | nil => exact .nil
  | cons x xs ih =>
    obtain ⟨first, others⟩ := List.forall_mem_cons.1 all
    exact first.append (ih others)

/-- A slot may come to nothing. -/
theorem drop (grows : Grows ms ns) : Grows (.slot :: ms) ns := .slot [] grows

/-- A slot may come to whatever stands alone. -/
theorem fill (found : List Mark) : Grows [.slot] found := by
  have alone := Grows.slot found .nil
  rwa [List.append_nil] at alone

/-- Lists that are put together come to leaves one by one. -/
theorem exists_leaves {ls : List Leaf} (grows : Grows (ms ++ ms') (ls.map .leaf)) :
    ∃ xs ys : List Leaf, ls = xs ++ ys ∧ Grows ms (xs.map .leaf) ∧ Grows ms' (ys.map .leaf) := by
  obtain ⟨ns, ns', whole, first, second⟩ := grows.exists_of_append
  obtain ⟨xs, ys, rfl, rfl, rfl⟩ := List.map_eq_append_iff.1 whole
  exact ⟨xs, ys, rfl, first, second⟩

theorem eq_nil {ls : List Leaf} (grows : Grows [] (ls.map .leaf)) : ls = [] := by
  generalize same : ls.map Mark.leaf = ns at grows
  cases grows
  exact List.map_eq_nil_iff.1 same

/-- Without slots nothing comes to stand between leaves. -/
theorem eq_of_leaves {xs ys : List Leaf} (written : .text "\n" ∉ xs)
    (grows : Grows (xs.map .leaf) (ys.map .leaf)) : ys = xs := by
  have same : ∀ {xs : List Leaf} {ns : List Mark}, .text "\n" ∉ xs → Grows (xs.map .leaf) ns →
      ns = xs.map .leaf := by
    intro xs ns written grows
    induction xs generalizing ns with
    | nil =>
      cases grows
      rfl
    | cons l ls ih =>
      rw [List.mem_cons, not_or] at written
      cases grows with
      | leaf _ rest => exact congrArg _ (ih written.2 rest)
      | newline => exact absurd rfl written.1
  exact List.map_injective_iff.2 (fun _ _ => Mark.leaf.inj) (same written grows)

end Grows

end Mark

open Mark (Grows)

namespace Doc

mutual

/-- The leaves and the slots of a document, in order. -/
def marks : Doc → List Mark
  | .empty | .after _ | .before _ => []
  | .leaf l => [.leaf l]
  | .group body => body.marks
  | .indent _ body => body.marks
  | .seq parts => marksAll parts
  | .join items _ => marksAll items
  | .slot .. => [.slot]
termination_by structural d => d

def marksAll : List Doc → List Mark
  | [] => []
  | d :: ds => d.marks ++ marksAll ds
termination_by structural ds => ds

end

theorem marksAll_eq_flatMap (ds : List Doc) : marksAll ds = ds.flatMap marks := by
  induction ds with
  | nil => rfl
  | cons d ds ih => rw [marksAll, List.flatMap_cons, ih]

theorem marks_seq (parts : List Doc) : (Doc.seq parts).marks = parts.flatMap marks := by
  rw [marks, marksAll_eq_flatMap]

theorem marks_enclose (w : Wrapper) (body : Doc) : (w.enclose body).marks = body.marks := by
  cases w <;> rfl

theorem marks_concat (ds : List Doc) : (concat ds).marks = ds.flatMap marks :=
  flatMap_concat rfl marks_seq ds

/-- The leaves of a document are its marks without the slots. -/
theorem grows_leaves (d : Doc) (around : List Wrapper) :
    Grows d.marks ((d.strands (fun _ => []) around).map fun s => .leaf s.leaf) := by
  have parts : ∀ ds : List Doc, (∀ d ∈ ds, ∀ around,
      Grows d.marks ((d.strands (fun _ => []) around).map fun s => .leaf s.leaf)) → ∀ around,
      Grows (marksAll ds) ((strandsAll (fun _ => []) around ds).map fun s => .leaf s.leaf) := by
    intro ds all around
    rw [marksAll_eq_flatMap, strandsAll_eq_flatMap, List.map_flatMap]
    exact .flatMap fun d member => all d member around
  induction d generalizing around with
  | empty | after | before => exact .nil
  | leaf l => exact .refl _
  | group body ih => exact ih _
  | indent amount body ih => exact ih _
  | seq items ih => exact parts items ih around
  | join items separator ih => exact parts items ih around
  | slot usual trivia required => cases trivia <;> exact .drop .nil

end Doc

/-! ## Reduction -/

namespace Cell

variable {settle : Doc → Doc}

/-- The marks of a list of cells. -/
def marks (cells : List Cell) : List Mark := cells.flatMap fun c => c.doc.marks

theorem marks_append (xs ys : List Cell) : marks (xs ++ ys) = marks xs ++ marks ys :=
  List.flatMap_append

theorem Turns.grows {window out : List Cell} (turns : Turns settle window out) :
    Grows (marks window) (marks out) := by
  cases turns with
  | merge merges =>
    cases merges with
    | befores | afters => exact .nil
    | keptFirst | keptSecond | slots => exact .drop (.refl _)
  | between | behind | ahead | alone => exact .fill _
  | newline => exact .newline (.drop .nil)

theorem marks_of_isBoundary {c : Cell} (boundary : c.IsBoundary) : c.doc.marks = [] := by
  obtain ⟨d, rfl | rfl⟩ := boundary <;> rfl

theorem grows_step? {cells next : List Cell} (applied : step? settle cells = some next) :
    Grows (marks cells) (marks next) := by
  obtain ⟨front, window, out, back, rfl, rfl, turns⟩ | ⟨-, front, c, back, rfl, rfl, boundary⟩ :=
    exists_of_step? applied
  · simp only [marks_append]
    exact ((Grows.refl _).append turns.grows).append (.refl _)
  · rw [marks_append, marks_append, marks, marks, marks, List.flatMap_cons, marks_of_isBoundary boundary]
    exact .refl _

/-- Reduction puts something in the place of slots alone. -/
theorem grows_reduce (settle : Doc → Doc) (cells : List Cell) :
    Grows (marks cells) (marks (reduce settle cells)) := by
  fun_induction reduce settle cells with
  | case1 cells next applied ih => exact (grows_step? applied).trans ih
  | case2 cells stuck => exact .refl _

end Cell

namespace Doc

variable (settle : Doc → Doc)

theorem grows_assemble {ds : List Doc} (parts : ∀ d ∈ ds, Grows d.marks (toCell settle d).doc.marks) :
    Grows (ds.flatMap marks) (assemble settle (toCells settle ds)).marks := by
  have cells : Grows (ds.flatMap marks) (Cell.marks (toCells settle ds)) := by
    rw [Cell.marks, toCells_eq_map, List.flatMap_map]
    exact .flatMap parts
  have reduced := cells.trans (Cell.grows_reduce settle (toCells settle ds))
  rwa [assemble, marks_concat, Cell.sweep_eq_reduce, List.nil_append, List.flatMap_map]

/-- Inside a part, too, something comes in the place of slots alone. -/
theorem grows_toCell {d : Doc} :
    ∀ x ∈ d.opened, Grows x.marks (toCell settle x).doc.marks := by
  refine opened_induction ?_ ?_ ?_ ?_
  · exact fun l => .refl _
  · intro c control
    cases c with
    | after | before | slot => exact .refl _
    | _ => cases control
  · intro body _ ih
    have inner := grows_assemble settle ih
    rw [flatMap_items rfl marks_seq] at inner
    rw [toCell_group]
    exact inner
  · intro amount body _ ih
    have inner := grows_assemble settle ih
    rw [flatMap_items rfl marks_seq] at inner
    rw [toCell_indent]
    exact inner

/-! ## Resolution -/

/-- No join stands outside control nodes. -/
def Joinless (d : Doc) : Prop := d.Governed (fun _ => True) fun _ => False

/-- The leaves of a resolved document are the marks of the document, with something in the
place of its slots. -/
theorem grows_resolve {d : Doc} (joinless : d.Joinless) :
    Grows d.marks ((resolve d).leafList.map .leaf) := by
  have assembled := grows_assemble resolve (@grows_toCell resolve d)
  rw [flatMap_opened rfl marks_seq marks_enclose joinless] at assembled
  rw [resolve_eq, resolveWith_eq, leafList_sink, leafList, List.map_map]
  exact assembled.trans (grows_leaves _ [])

/-- Spacing never appears where there is no slot.  Leaves of a document with no slot between
them are side by side in the resolved document, whatever spacing was asked for between them.
If they begin or end the document, nothing stands before or behind them. -/
theorem leafList_resolve_of_marks {d : Doc} (joinless : d.Joinless) {front back : List Mark}
    {ls : List Leaf} (written : .text "\n" ∉ ls) (marks : d.marks = front ++ ls.map .leaf ++ back) :
    ∃ front' back' : List Leaf, (resolve d).leafList = front' ++ ls ++ back' ∧
      Grows front (front'.map .leaf) ∧ Grows back (back'.map .leaf) ∧
      (front = [] → front' = []) ∧ (back = [] → back' = []) := by
  have grows := grows_resolve joinless
  rw [marks] at grows
  obtain ⟨rest, back', whole, grows, behind⟩ := grows.exists_leaves
  obtain ⟨front', middle, rfl, ahead, between⟩ := grows.exists_leaves
  obtain rfl := between.eq_of_leaves written
  refine ⟨front', back', whole, ahead, behind, ?_, ?_⟩
  · rintro rfl
    exact ahead.eq_nil
  · rintro rfl
    exact behind.eq_nil

/-- A name and the parenthesis behind it stay side by side, though a line end and a space are
asked for between them. -/
theorem leafList_resolve_of_marks_call :
    (Doc.seq [.group (.seq [.text "f", .after (.hardline 0)]), .before .line, .text "(",
        .slot (some .space) none false]).Joinless ∧
      Leaf.text "\n" ∉ [.text "f", .text "("] ∧
      (Doc.seq [.group (.seq [.text "f", .after (.hardline 0)]), .before .line, .text "(",
        .slot (some .space) none false]).marks = [] ++ [Leaf.text "f", .text "("].map .leaf ++ [.slot] ∧
      ∃ behind, (resolve (.seq [.group (.seq [.text "f", .after (.hardline 0)]), .before .line,
        .text "(", .slot (some .space) none false])).leafList = [.text "f", .text "("] ++ behind := by
  have joinless : (Doc.seq [.group (.seq [.text "f", .after (.hardline 0)]), .before .line, .text "(",
      .slot (some .space) none false]).Joinless := by
    simp [Joinless, Governed, GovernedAll]
  have written : Leaf.text "\n" ∉ [.text "f", .text "("] := by decide
  refine ⟨joinless, written, rfl, ?_⟩
  obtain ⟨ahead, behind, leaves, -, -, first, -⟩ := @leafList_resolve_of_marks _ joinless [] _ _ written rfl
  rw [first rfl] at leaves
  exact ⟨behind, leaves⟩

end Doc

end Reprint
