import Reprint.Proofs.Doc.Fixpoint
import Reprint.Proofs.Doc.Parts

/-!
# Control nodes at the edges of a wrapper

Whether control nodes stand just inside the edges of a group or an indentation or just
outside makes no difference, as long as there is a leaf between them (`opened_enclose_seq`).
Resolution looks at the opened document alone, and what a part is opened to is all that
counts wherever it stands among sequences, groups and indentations (`Place.opened_fill`).
So no place in a document can tell the two apart (`resolve_fill_enclose`).
-/

namespace Reprint.Doc

/-! ## Places -/

/-- A place in a document: sequences, groups and indentations around a hole. -/
inductive Place where
  | hole
  | within (wrapper : Wrapper) (inner : Place)
  | among (front : List Doc) (inner : Place) (back : List Doc)

/-- The document with another one at the place. -/
def Place.fill : Place → Doc → Doc
  | .hole, d => d
  | .within wrapper inner, d => wrapper.enclose (inner.fill d)
  | .among front inner back, d => .seq (front ++ inner.fill d :: back)

/-- Documents that are opened alike are opened alike wherever they stand. -/
theorem Place.opened_fill (place : Place) {a b : Doc} (same : a.opened = b.opened) :
    (place.fill a).opened = (place.fill b).opened := by
  induction place with
  | hole => exact same
  | within wrapper inner ih => rw [fill, fill, opened_enclose, opened_enclose, ih]
  | among front inner back ih =>
    rw [fill, fill, opened_seq_eq_flatMap, opened_seq_eq_flatMap, List.flatMap_append,
      List.flatMap_append, List.flatMap_cons, List.flatMap_cons, ih]

/-! ## Wrappers and control nodes -/

theorem strands_eq_nil_of_isControl {d : Doc} (control : d.isControl) (around : List Wrapper) :
    d.strands (fun _ => []) around = [] := by
  match d with
  | .after _ | .before _ | .slot _ none _ | .slot _ (some _) _ => rfl

/-- A document with a leaf is not opened to control nodes alone. -/
theorem exists_content_of_leaves {d : Doc} (leaves : d.leaves ≠ []) :
    ∃ x ∈ d.opened, x.isControl = false := by
  by_contra none
  have controls : ∀ x ∈ d.opened, x.isControl := by simpa using none
  have woven : Woven Eq (fun _ => True) d.leaves (d.opened.flatMap (strands (fun _ => []) [])) :=
    woven_opened (fun _ _ _ _ => trivial) (governed_of_nesting (Nat.le_refl d.nesting))
  rw [List.flatMap_eq_nil_iff.2 fun x member => strands_eq_nil_of_isControl (controls x member) []] at woven
  cases own : d.leaves with
  | nil => exact leaves own
  | cons s ss =>
    rw [own] at woven
    cases woven

/-- Control nodes just inside the edges of a wrapper leave it, and so are opened like those
just outside. -/
theorem opened_enclose_seq (wrapper : Wrapper) {front back : List Doc} {c : Doc}
    (leading : ∀ d ∈ front, d.isLeading) (trailing : ∀ d ∈ back, d.isTrailing)
    (content : c.leaves ≠ []) :
    (wrapper.enclose (.seq (front ++ c :: back))).opened
      = (Doc.seq (front ++ wrapper.enclose c :: back)).opened := by
  have own : ∀ ds : List Doc, (∀ d ∈ ds, d.isControl) → ds.flatMap opened = ds := by
    intro ds controls
    rw [List.flatMap_congr fun d member => opened_of_isControl (controls d member), List.flatMap_singleton']
  have front' := own front fun d member => isControl_of_isLeading (leading d member)
  have back' := own back fun d member => isControl_of_isTrailing (trailing d member)
  have inside : (Doc.seq (front ++ c :: back)).opened = front ++ c.opened ++ back := by
    rw [opened_seq_eq_flatMap, List.flatMap_append, List.flatMap_cons, front', back', List.append_assoc]
  have cut := Edges.ofParts_surrounded leading trailing (exists_content_of_leaves content)
  rw [opened_enclose, inside, cut, opened_seq_eq_flatMap, List.flatMap_append, List.flatMap_cons, front',
    back', opened_enclose]
  simp only [List.append_assoc, List.cons_append]

/-- The edges of groups and indentations are transparent: wherever a group or an indentation
stands, control nodes may as well stand just outside its edges as just inside, if there is a
leaf between them. -/
theorem resolve_fill_enclose (place : Place) (wrapper : Wrapper) {front back : List Doc} {c : Doc}
    (leading : ∀ d ∈ front, d.isLeading) (trailing : ∀ d ∈ back, d.isTrailing)
    (content : c.leaves ≠ []) :
    resolve (place.fill (wrapper.enclose (.seq (front ++ c :: back))))
      = resolve (place.fill (.seq (front ++ wrapper.enclose c :: back))) :=
  resolve_congr_of_opened (place.opened_fill (opened_enclose_seq wrapper leading trailing content))

/-- The slot and the spacing around an indented body, inside a group, leave the indentation. -/
theorem resolve_fill_enclose_body :
    (∀ d ∈ [Doc.slot (some .empty) none false, .before .line], d.isLeading) ∧
      (∀ d ∈ [Doc.after (.hardline 0), .slot none (some (.comment "#")) true], d.isTrailing) ∧
      (Doc.seq [.before .space, .text "x"]).leaves ≠ [] ∧
      resolve (.seq [.text "begin", .after (.hardline 0),
          .group (.indent none (.seq [.slot (some .empty) none false, .before .line,
            .seq [.before .space, .text "x"], .after (.hardline 0),
            .slot none (some (.comment "#")) true])),
          .text "end"])
        = resolve (.seq [.text "begin", .after (.hardline 0),
          .group (.seq [.slot (some .empty) none false, .before .line,
            .indent none (.seq [.before .space, .text "x"]), .after (.hardline 0),
            .slot none (some (.comment "#")) true]),
          .text "end"]) := by
  have leading : ∀ d ∈ [Doc.slot (some .empty) none false, .before .line], d.isLeading := by
    simp [isLeading]
  have trailing : ∀ d ∈ [Doc.after (.hardline 0), .slot none (some (.comment "#")) true],
      d.isTrailing := by
    simp [isTrailing]
  have content : (Doc.seq [.before .space, .text "x"]).leaves ≠ [] := List.cons_ne_nil _ _
  exact ⟨leading, trailing, content,
    resolve_fill_enclose (.among [.text "begin", .after (.hardline 0)] (.within .group .hole) [.text "end"])
      (.indent none) leading trailing content⟩

end Reprint.Doc
