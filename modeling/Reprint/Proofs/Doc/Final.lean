import Reprint.Proofs.Doc.Skeleton

/-!
# What a resolved document is made of

A property that documents have through their parts passes from the parts of a
document, and from what its control nodes carry, to the resolved document
(`Hereditary.resolveWith`).  In this way resolved documents are final, and a
document without indentations is resolved to one without.
-/

namespace Reprint.Doc

/-! ## Through the resolution -/

section Passing

variable {R : Doc → Prop} {settle : Doc → Doc} {spacing trivia separator : Doc → Prop}

theorem forall_mem_of_yields (newline : R (.hardline 0)) (chosen : ∀ d, trivia d → R (settle d))
    {c : Cell} {found : List Cell} (meets : c.Meets spacing trivia)
    (content : c.isControl = false → R c.doc) (yields : Cell.Yields settle c found) :
    ∀ x ∈ found, R x.doc := by
  cases yields with
  | content isContent => exact List.forall_mem_singleton.2 (content isContent)
  | newline => exact List.forall_mem_singleton.2 newline
  | kept usual d required => exact List.forall_mem_singleton.2 (chosen d (meets.2.1 d rfl))
  | slot | after | before => exact List.forall_mem_nil _

theorem forall_mem_of_fills (newline : R (.hardline 0)) (spaced : ∀ d, spacing d → R (settle d))
    (chosen : ∀ d, trivia d → R (settle d)) {cells out : List Cell}
    (meets : ∀ c ∈ cells, c.Meets spacing trivia) (contents : ∀ c ∈ cells, c.isControl = false → R c.doc)
    (filled : Cell.Fills settle spacing cells out) : ∀ x ∈ out, R x.doc := by
  induction filled with
  | nil => exact List.forall_mem_nil _
  | cell yields _ ih =>
    obtain ⟨here, meets⟩ := List.forall_mem_cons.1 meets
    obtain ⟨first, contents⟩ := List.forall_mem_cons.1 contents
    exact List.forall_mem_append.2
      ⟨forall_mem_of_yields newline chosen here first yields, ih meets contents⟩
  | spacing own _ ih => exact List.forall_mem_cons.2 ⟨spaced _ own, ih meets contents⟩

namespace Hereditary

variable (output : Hereditary R)
include output

theorem moveBreaks {ds : List Doc} (all : ∀ d ∈ ds, R d) : ∀ d ∈ moveBreaks ds, R d := by
  fun_induction Doc.moveBreaks ds with
  | case1 => exact all
  | case2 => exact all
  | case3 d amount body rest _ ih =>
    obtain ⟨first, second, others⟩ := by simpa only [List.forall_mem_cons] using all
    obtain ⟨inner, back⟩ := output.indent second
    have moved : R (Doc.concat [d, body]) :=
      output.concat (List.forall_mem_cons.2 ⟨first, List.forall_mem_singleton.2 inner⟩)
    exact List.forall_mem_cons.2 ⟨back moved, ih others⟩
  | case4 d amount body rest _ ih =>
    obtain ⟨first, others⟩ := List.forall_mem_cons.1 all
    exact List.forall_mem_cons.2 ⟨first, ih others⟩
  | case5 d next rest _ ih =>
    obtain ⟨first, others⟩ := List.forall_mem_cons.1 all
    exact List.forall_mem_cons.2 ⟨first, ih others⟩

theorem sink {d : Doc} (holds : R d) : R d.sink := by
  induction d with
  | group body ih =>
    obtain ⟨inner, back⟩ := output.group holds
    exact back (ih inner)
  | indent amount body ih =>
    obtain ⟨inner, back⟩ := output.indent holds
    exact back (ih inner)
  | seq parts ih =>
    rw [Doc.sink, sinkAll_eq_map]
    refine output.concat (output.moveBreaks (List.forall_mem_map.2 ?_))
    exact fun d member => ih d member (output.part holds d member)
  | _ => exact holds

theorem assemble (newline : R (.hardline 0)) (spaced : ∀ d, spacing d → R (settle d))
    (chosen : ∀ d, trivia d → R (settle d)) {ds : List Doc} (parts : ∀ d ∈ ds, d.isPart)
    (governed : ∀ d ∈ ds, d.Governed (Meets spacing trivia) separator)
    (contents : ∀ d ∈ ds, (toCell settle d).isControl = false → R (toCell settle d).doc) :
    R (assemble settle (toCells settle ds)) := by
  have meets := meets_toCells settle parts governed
  have filled := Cell.fills_sweep settle [] meets
  rw [List.nil_append] at filled
  refine output.concat (List.forall_mem_map.2 ?_)
  refine forall_mem_of_fills newline spaced chosen meets ?_ filled
  rw [toCells_eq_map]
  exact List.forall_mem_map.2 contents

/-- What the parts of a document and the documents that its control nodes carry
lead to holds of the reduced document. -/
theorem assemble_opened {P : Doc → Prop} (input : Hereditary P) (leaf : ∀ l, R (.leaf l))
    (group : ∀ {body body'}, P (.group body) → R body' → R (.group body'))
    (indent : ∀ {amount body body'}, P (.indent amount body) → R body' → R (.indent amount body'))
    (spaced : ∀ d, spacing d → R (settle d)) (chosen : ∀ d, trivia d → R (settle d))
    (opens : ∀ s, separator s → trivia s) {d : Doc} (holds : P d)
    (governed : d.Governed (Meets spacing trivia) separator) :
    R (Doc.assemble settle (toCells settle d.opened)) := by
  have hereditary : Hereditary (Governed (Meets spacing trivia) separator) :=
    hereditary_meets opens
  have contents : ∀ x ∈ d.opened, P x → x.Governed (Meets spacing trivia) separator →
      (toCell settle x).isControl = false → R (toCell settle x).doc := by
    refine opened_induction ?_ ?_ ?_ ?_
    · intro l _ _ _
      exact leaf l
    · intro c control _ _ content
      cases c with
      | after | before | slot => cases content
      | _ => cases control
    · intro body tidy ih holds governed _
      have inner := input.items (input.group holds).1
      have governed' := Governed.items (d := body) governed
      rw [toCell_group]
      exact group holds (output.assemble (leaf _) spaced chosen
        (fun x member => (tidy.of_mem_items member).1) governed'
        fun x member => ih x member (inner x member) (governed' x member))
    · intro amount body tidy ih holds governed _
      have inner := input.items (input.indent holds).1
      have governed' := Governed.items (d := body) governed
      rw [toCell_indent]
      exact indent holds (output.assemble (leaf _) spaced chosen
        (fun x member => (tidy.of_mem_items member).1) governed'
        fun x member => ih x member (inner x member) (governed' x member))
  have holds' := input.opened holds
  have governed' := hereditary.opened governed
  exact output.assemble (leaf _) spaced chosen
    (fun x member => (tidy_of_mem_opened member).1) governed'
    fun x member => contents x member (holds' x member) (governed' x member)

/-- What holds of the reduced document holds of the resolved one. -/
theorem resolveWith {P : Doc → Prop} (input : Hereditary P) (leaf : ∀ l, R (.leaf l))
    (group : ∀ {body body'}, P (.group body) → R body' → R (.group body'))
    (indent : ∀ {amount body body'}, P (.indent amount body) → R body' → R (.indent amount body'))
    (spaced : ∀ d, spacing d → R (settle d)) (chosen : ∀ d, trivia d → R (settle d))
    (opens : ∀ s, separator s → trivia s) {d : Doc} (holds : P d)
    (governed : d.Governed (Meets spacing trivia) separator) : R (resolveWith settle d) := by
  rw [resolveWith_eq]
  exact output.sink (output.assemble_opened input leaf group indent spaced chosen opens holds governed)

end Hereditary

end Passing

/-! ## Final documents -/

theorem allFinal_iff {ds : List Doc} : allFinal ds ↔ ∀ d ∈ ds, d.isFinal := by
  induction ds with
  | nil => simp [allFinal]
  | cons d ds ih => rw [allFinal, Bool.and_eq_true, ih, List.forall_mem_cons]

theorem isFinal_concat {ds : List Doc} (all : ∀ d ∈ ds, d.isFinal) : (concat ds).isFinal :=
  holds_concat (P := fun d => d.isFinal) rfl allFinal_iff all

theorem hereditary_isFinal : Hereditary (fun d => d.isFinal) where
  group final := ⟨final, fun final' => final'⟩
  indent final := ⟨final, fun final' => final'⟩
  part final := allFinal_iff.1 final
  join final := by cases final
  concat := isFinal_concat

theorem hereditary_true : Hereditary fun _ => True where
  group _ := ⟨trivial, fun _ => trivial⟩
  indent _ := ⟨trivial, fun _ => trivial⟩
  part _ _ _ := trivial
  join _ := ⟨fun _ _ => trivial, trivial⟩
  concat _ := trivial

/-- A resolved document leaves no decision open. -/
theorem isFinal_resolve (d : Doc) : (resolve d).isFinal := by
  induction nested : d.nesting using Nat.strong_induction_on generalizing d with
  | _ n ih =>
    have deeper : ∀ x : Doc, x.nesting < n → (resolve x).isFinal := fun x held => ih _ held x rfl
    rw [resolve_eq]
    refine hereditary_isFinal.resolveWith hereditary_true (fun _ => rfl) (fun _ final => final)
      (fun _ final => final) ?_ deeper (fun _ held => held) trivial (governed_of_nesting nested.le)
    rintro x (held | rfl)
    · exact deeper x held
    · rw [resolve_eq, resolveWith_leaf]
      rfl

end Reprint.Doc
