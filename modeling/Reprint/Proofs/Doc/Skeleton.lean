import Reprint.Proofs.Doc.Fixpoint

/-!
# Resolution keeps the leaves

Whatever control nodes a document holds, resolution keeps its leaves and those
of the trivia in its slots, in order.  What it adds are the leaves of spacing and
of separators (`woven_resolve`).  What is written keeps the groups and
indentations around it; only a line end written as text may become a hard one.
-/

namespace Reprint.Doc

/-! ## Cells -/

/-- A part that is not wrapped stands in its cell as it is. -/
theorem toCell_of_unwrapped (settle : Doc → Doc) {d : Doc} (part : d.isPart)
    (group : ∀ body, d ≠ .group body) (indent : ∀ amount body, d ≠ .indent amount body) :
    toCell settle d = .raw d := by
  cases d with
  | empty | seq | join => cases part
  | group body => exact absurd rfl (group body)
  | indent amount body => exact absurd rfl (indent amount body)
  | leaf | after | before | slot => rfl

theorem eq_of_toCell {settle : Doc → Doc} {d e : Doc} (part : d.isPart)
    (same : toCell settle d = .raw e) (group : ∀ body, e ≠ .group body)
    (indent : ∀ amount body, e ≠ .indent amount body) : d = e := by
  have unwrapped : toCell settle d = .raw d := by
    refine toCell_of_unwrapped settle part ?_ ?_
    · rintro body rfl
      rw [toCell_group] at same
      exact group _ (Cell.raw.inj same).symm
    · rintro amount body rfl
      rw [toCell_indent] at same
      exact indent _ _ (Cell.raw.inj same).symm
  exact Cell.raw.inj (unwrapped.symm.trans same)

theorem isControl_toCell (settle : Doc → Doc) {d : Doc} (part : d.isPart) :
    (toCell settle d).isControl = d.isControl := by
  cases d with
  | empty | seq | join => cases part
  | group body =>
    rw [toCell_group]
    rfl
  | indent amount body =>
    rw [toCell_indent]
    rfl
  | leaf | after | before | slot => rfl

/-! ## One list of parts -/

section Parts

variable {settle : Doc → Doc} {spacing : Doc → Prop} {Q : Leaf → Prop}

/-- What the leaves of a part become in its cell, if it is no control node. -/
def Carries (settle : Doc → Doc) (Q : Leaf → Prop) (around : List Wrapper) (d : Doc) : Prop :=
  d.isControl = false →
    Woven Strand.Keeps (fun s => Q s.leaf) (d.strands (remains settle) around)
      ((toCell settle d).doc.strands (fun _ => []) around)

theorem woven_of_yields {around : List Wrapper} {d : Doc} {found : List Cell} (part : d.isPart)
    (carries : Carries settle Q around d) (yields : Cell.Yields settle (toCell settle d) found) :
    Woven Strand.Keeps (fun s => Q s.leaf) (d.strands (remains settle) around)
      (found.flatMap fun c => c.doc.strands (fun _ => []) around) := by
  generalize same : toCell settle d = c at yields
  cases yields with
  | content content =>
    rw [← same, isControl_toCell settle part] at content
    rw [← same, List.flatMap_singleton]
    exact carries content
  | newline line =>
    unfold Cell.isNewline at line
    split at line
    · next text =>
      obtain rfl := eq_of_toCell part same (fun _ => nofun) (fun _ _ => nofun)
      rw [beq_iff_eq] at line
      rw [line]
      exact .keep (.newline around none) .nil
    · cases line
  | kept usual trivia required =>
    obtain rfl := eq_of_toCell part same (fun _ => nofun) (fun _ _ => nofun)
    rw [List.flatMap_singleton]
    exact .ofForall₂ (forall₂_remains settle trivia around)
  | slot usual required =>
    obtain rfl := eq_of_toCell part same (fun _ => nofun) (fun _ _ => nofun)
    exact .nil
  | after spacing =>
    obtain rfl := eq_of_toCell part same (fun _ => nofun) (fun _ _ => nofun)
    exact .nil
  | before spacing =>
    obtain rfl := eq_of_toCell part same (fun _ => nofun) (fun _ _ => nofun)
    exact .nil

theorem woven_of_fills {around : List Wrapper} {ds : List Doc} {out : List Cell}
    (free : ∀ d, spacing d → ∀ s ∈ (settle d).leaves, Q s.leaf) (parts : ∀ d ∈ ds, d.isPart)
    (carries : ∀ d ∈ ds, Carries settle Q around d)
    (filled : Cell.Fills settle spacing (ds.map (toCell settle)) out) :
    Woven Strand.Keeps (fun s => Q s.leaf) (ds.flatMap (strands (remains settle) around))
      (out.flatMap fun c => c.doc.strands (fun _ => []) around) := by
  generalize same : ds.map (toCell settle) = cells at filled
  induction filled generalizing ds with
  | nil =>
    rw [List.map_eq_nil_iff.1 same]
    exact .nil
  | cell yields _ ih =>
    obtain ⟨d, rest, rfl, rfl, behind⟩ := List.map_eq_cons_iff.1 same
    obtain ⟨part, parts⟩ := List.forall_mem_cons.1 parts
    obtain ⟨here, carries⟩ := List.forall_mem_cons.1 carries
    rw [List.flatMap_cons, List.flatMap_append]
    exact (woven_of_yields part here yields).append (ih parts carries behind)
  | @spacing d _ _ own _ ih =>
    rw [List.flatMap_cons]
    refine .insertAll ?_ (ih parts carries same)
    intro s member
    have loose : s.loose ∈ remains settle d := by
      rw [remains_eq settle d around]
      exact List.mem_map_of_mem member
    obtain ⟨s', inside, equal⟩ := List.mem_map.1 loose
    have leaf : s'.loose.leaf = s.loose.leaf := by rw [equal]
    exact leaf ▸ free d own s' inside

/-- The leaves of a list of parts are kept when it is reduced. -/
theorem woven_assemble {trivia separator : Doc → Prop} {around : List Wrapper} {ds : List Doc}
    (free : ∀ d, spacing d → ∀ s ∈ (settle d).leaves, Q s.leaf) (parts : ∀ d ∈ ds, d.isPart)
    (governed : ∀ d ∈ ds, d.Governed (Meets spacing trivia) separator)
    (carries : ∀ d ∈ ds, Carries settle Q around d) :
    Woven Strand.Keeps (fun s => Q s.leaf) (ds.flatMap (strands (remains settle) around))
      ((assemble settle (toCells settle ds)).strands (fun _ => []) around) := by
  have filled := Cell.fills_sweep settle [] (meets_toCells settle parts governed)
  rw [List.nil_append, toCells_eq_map] at filled
  rw [assemble, strands_concat, List.flatMap_map, toCells_eq_map]
  exact woven_of_fills free parts carries filled

end Parts

/-! ## Breaks in front of an indentation -/

theorem strands_of_isBreak (kept : Doc → List Strand) {d : Doc} (isBreak : d.isBreak)
    (around around' : List Wrapper) : d.strands kept around = d.strands kept around' := by
  unfold Doc.isBreak at isBreak
  split at isBreak
  · rfl
  · rfl
  · rfl
  · cases isBreak

theorem flatMap_strands_moveBreaks (kept : Doc → List Strand) (around : List Wrapper)
    (ds : List Doc) :
    (moveBreaks ds).flatMap (strands kept around) = ds.flatMap (strands kept around) := by
  fun_induction moveBreaks ds with
  | case1 => rfl
  | case2 => rfl
  | case3 d amount body rest isBreak ih =>
    have outside := strands_of_isBreak kept isBreak around (around ++ [.indent amount])
    simp only [List.flatMap_cons, ih, strands, strands_concat, List.flatMap_nil, List.append_nil,
      outside, List.append_assoc]
  | case4 d amount body rest _ ih => exact congrArg (strands kept around d ++ ·) ih
  | case5 d next rest _ ih => exact congrArg (strands kept around d ++ ·) ih

/-- A break that moves into an indentation keeps its place among the leaves. -/
theorem strands_sink (kept : Doc → List Strand) (d : Doc) (around : List Wrapper) :
    d.sink.strands kept around = d.strands kept around := by
  induction d generalizing around with
  | group body ih => exact ih _
  | indent amount body ih => exact ih _
  | seq parts ih =>
    rw [sink, strands_concat, flatMap_strands_moveBreaks, sinkAll_eq_map, List.flatMap_map,
      strands_seq]
    exact List.flatMap_congr fun d member => ih d member around
  | _ => rfl

/-! ## The whole document -/

section Whole

variable {settle : Doc → Doc} {spacing trivia separator : Doc → Prop} {Q : Leaf → Prop}

theorem carries_of_mem_opened (free : ∀ d, spacing d → ∀ s ∈ (settle d).leaves, Q s.leaf) {d : Doc} :
    ∀ x ∈ d.opened, x.Governed (Meets spacing trivia) separator →
      ∀ around, Carries settle Q around x := by
  refine opened_induction ?_ ?_ ?_ ?_
  · intro l _ around _
    exact .keep (.same _) .nil
  · intro c control _ around content
    rw [content] at control
    cases control
  · intro body tidy ih governed around _
    have inner := Governed.items (d := body) governed
    rw [toCell_group, strands, ← flatMap_strands_items]
    exact woven_assemble free (fun x member => (tidy.of_mem_items member).1) inner
      fun x member => ih x member (inner x member) _
  · intro amount body tidy ih governed around _
    have inner := Governed.items (d := body) governed
    rw [toCell_indent, strands, ← flatMap_strands_items]
    exact woven_assemble free (fun x member => (tidy.of_mem_items member).1) inner
      fun x member => ih x member (inner x member) _

/-- Resolution keeps the leaves of a document and of its trivia in order and adds
the leaves of spacing and separators. -/
theorem woven_resolveWith (newline : Q (.text "\n") → Q (.hardline 0))
    (free : ∀ d, spacing d → ∀ s ∈ (settle d).leaves, Q s.leaf)
    (opens : ∀ s, separator s → trivia s ∧ ∀ x ∈ (settle s).leaves, Q x.leaf) {d : Doc}
    (governed : d.Governed (Meets spacing trivia) separator) :
    Woven Strand.Keeps (fun s => Q s.leaf) (d.strands (remains settle) [])
      (resolveWith settle d).leaves := by
  have hereditary : Hereditary (Governed (Meets spacing trivia) separator) :=
    hereditary_meets fun s held => (opens s held).1
  have inner := hereditary.opened governed
  have first : Woven Eq (fun s => Q s.leaf) (d.strands (remains settle) [])
      (d.opened.flatMap (strands (remains settle) [])) := by
    refine woven_opened ?_ governed
    intro s held x member
    obtain ⟨y, inside, rfl⟩ := List.mem_map.1 member
    exact (opens s held).2 y inside
  rw [leaves, resolveWith_eq, strands_sink]
  refine .trans_eq ?_ first (woven_assemble free (fun x member => (tidy_of_mem_opened member).1) inner
    fun x member => carries_of_mem_opened free x member (inner x member) [])
  intro x y held keeps
  cases keeps with
  | same | loose => exact held
  | newline => exact newline held

theorem woven_resolve (newline : Q (.text "\n") → Q (.hardline 0))
    (free : ∀ d, spacing d → ∀ s ∈ (resolve d).leaves, Q s.leaf)
    (opens : ∀ s, separator s → trivia s ∧ ∀ x ∈ (resolve s).leaves, Q x.leaf) {d : Doc}
    (governed : d.Governed (Meets spacing trivia) separator) :
    Woven Strand.Keeps (fun s => Q s.leaf) d.skeleton (resolve d).leaves := by
  rw [resolve_eq d]
  exact woven_resolveWith newline free opens governed

end Whole

/-- Resolution loses and reorders nothing: the leaves outside control nodes and
those of the kept trivia stand in the resolved document as a subsequence, and
what is written keeps what encloses it. -/
theorem sublist_leaves_resolve (d : Doc) :
    List.SublistForall₂ Strand.Keeps d.skeleton (resolve d).leaves := by
  have governed := governed_of_nesting (Nat.le_refl d.nesting)
  have woven : Woven Strand.Keeps (fun _ => True) d.skeleton (resolve d).leaves :=
    woven_resolve (Q := fun _ => True) (fun _ => trivial) (fun _ _ _ _ => trivial)
      (fun _ held => ⟨held, fun _ _ => trivial⟩) governed
  exact woven.sublistForall₂

end Reprint.Doc
