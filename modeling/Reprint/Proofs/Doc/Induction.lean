import Reprint.Doc.Resolve

/-!
# Induction on documents

Documents nest through lists and options.  The principle `Doc.inductionOn` gives
the hypothesis for every part of a sequence or join and for every document that
a control node carries, and the functions on lists of documents are brought into
the form of the library's `map` and `flatMap`.
-/

namespace Reprint.Doc

/-- Structural induction on documents. -/
@[elab_as_elim, induction_eliminator]
theorem inductionOn {motive : Doc → Prop} (d : Doc)
    (empty : motive .empty)
    (leaf : ∀ l, motive (.leaf l))
    (group : ∀ body, motive body → motive (.group body))
    (indent : ∀ amount body, motive body → motive (.indent amount body))
    (seq : ∀ parts, (∀ d ∈ parts, motive d) → motive (.seq parts))
    (join : ∀ items separator, (∀ d ∈ items, motive d) → motive separator →
      motive (.join items separator))
    (after : ∀ spacing, motive spacing → motive (.after spacing))
    (before : ∀ spacing, motive spacing → motive (.before spacing))
    (slot : ∀ spacing trivia required, (∀ d ∈ spacing, motive d) → (∀ d ∈ trivia, motive d) →
      motive (.slot spacing trivia required)) :
    motive d := by
  refine @Doc.rec motive (fun ds => ∀ d ∈ ds, motive d) (fun o => ∀ d ∈ o, motive d)
    empty leaf group indent seq join after before slot ?_ ?_ ?_ ?_ d
  · intro d member
    cases member
  · intro d ds first others
    exact List.forall_mem_cons.2 ⟨first, others⟩
  · intro d member
    cases member
  · intro d held e member
    exact Option.mem_some.1 member ▸ held

/-! ## Functions on lists of documents -/

theorem expandAll_eq_map (ds : List Doc) : expandAll ds = ds.map expand := by
  induction ds with
  | nil => rfl
  | cons d ds ih => simp [expandAll, ih]

theorem flattenAll_eq_flatMap (ds : List Doc) :
    flattenAll ds = ds.flatMap fun d => d.edges.flatten := by
  induction ds with
  | nil => rfl
  | cons d ds ih => simp [flattenAll, ih]

theorem toCells_eq_map (settle : Doc → Doc) (ds : List Doc) :
    toCells settle ds = ds.map (toCell settle) := by
  induction ds with
  | nil => rfl
  | cons d ds ih => simp [toCells, ih]

theorem sinkAll_eq_map (ds : List Doc) : sinkAll ds = ds.map sink := by
  induction ds with
  | nil => rfl
  | cons d ds ih => simp [sinkAll, ih]

theorem nestingAll_le_iff {n : Nat} {ds : List Doc} :
    nestingAll ds ≤ n ↔ ∀ d ∈ ds, d.nesting ≤ n := by
  induction ds with
  | nil => simp [nestingAll]
  | cons d ds ih => rw [nestingAll, Nat.max_le, ih, List.forall_mem_cons]

/-! ## Sequences -/

section Sequences

variable {β : Type} {f : Doc → List β} (empty : f .empty = [])
  (seq : ∀ parts, f (.seq parts) = parts.flatMap f)
include empty seq

/-- What is collected from the parts of sequences is collected from the items of a document. -/
theorem flatMap_items (d : Doc) : d.items.flatMap f = f d := by
  cases d with
  | empty => exact empty.symm
  | seq parts => exact (seq parts).symm
  | _ => simp [items]

/-- What is collected from the parts of sequences is collected from documents one
after the other. -/
theorem flatMap_concat (ds : List Doc) : f (concat ds) = ds.flatMap f := by
  have filtered : ∀ xs : List Doc, (xs.filter (!·.isEmpty)).flatMap f = xs.flatMap f := by
    intro xs
    induction xs with
    | nil => rfl
    | cons d xs ih =>
      rw [List.flatMap_cons, ← ih]
      cases d with
      | empty => simp [isEmpty, empty]
      | _ => rfl
  have parts : ∀ xs : List Doc, f (ofParts xs) = xs.flatMap f := by
    intro xs
    match xs with
    | [] => exact empty
    | [d] => simp [ofParts]
    | _ :: _ :: _ => simp [ofParts, seq]
  rw [concat, parts, List.flatMap_assoc]
  congr 1
  funext d
  rw [splice, filtered, flatMap_items empty seq]

end Sequences

/-- The body of a group or indentation becomes the list of cells of its parts. -/
theorem toCell_group (settle : Doc → Doc) (body : Doc) :
    toCell settle (.group body) = .raw (.group (assemble settle (toCells settle body.items))) := by
  cases body <;> simp [toCell, items, toCells]

theorem toCell_indent (settle : Doc → Doc) (amount : Option UInt32) (body : Doc) :
    toCell settle (.indent amount body)
      = .raw (.indent amount (assemble settle (toCells settle body.items))) := by
  cases body <;> simp [toCell, items, toCells]

end Reprint.Doc
