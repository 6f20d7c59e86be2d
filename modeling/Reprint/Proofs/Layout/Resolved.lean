import Mathlib.Data.List.Chain
import Reprint.Proofs.Doc.Sinking
import Reprint.Proofs.Layout

/-!
# Resolving a final document

A final document has no decision left open.  Resolution still brings its sequences into
canonical form and moves line breaks into the indentations behind them
(`resolve_of_isFinal`).  The canonical form is printed like the document itself, at every place
of every page (`alike_expand`).  A break that is moved ends the same line, but the next one is
indented further.  So nothing changes if no break stands directly in front of an indentation,
and nothing if no indentation adds a column (`render_resolve_of_isFinal`).
-/

namespace Reprint.Doc

/-! ## Nothing left to decide -/

theorem isControl_of_isFinal {d : Doc} (final : d.isFinal) : d.isControl = false := by
  cases d with
  | after | before | slot => cases final
  | _ => rfl

theorem concat_items {d : Doc} (tidy : d.Tidy) : concat d.items = d := by
  rw [concat_of_isPart fun x member => (tidy.of_mem_items member).1]
  cases d with
  | seq parts =>
    match parts, tidy.1 with
    | _ :: _ :: _, _ => rfl
  | _ => rfl

/-- The canonical form of a sequence has the parts of the canonical forms of its own parts. -/
theorem items_expand_seq (parts : List Doc) :
    (Doc.seq parts).expand.items = parts.flatMap fun d => d.expand.items := by
  have tidy : ∀ d ∈ parts.map expand, d.Tidy := List.forall_mem_map.2 fun d _ => tidy_expand d
  rw [expand, expandAll_eq_map, items_concat tidy, List.flatMap_map]

theorem Edges.ofParts_of_contents {ds : List Doc} (contents : ∀ d ∈ ds, d.isControl = false) :
    ofParts ds = ⟨[], concat ds, []⟩ := by
  have whole : ∀ (p : Doc → Bool) (xs : List Doc), (∀ x ∈ xs, p x = false) →
      xs.takeWhile p = [] ∧ xs.dropWhile p = xs := by
    intro p xs none
    cases xs with
    | nil => exact ⟨rfl, rfl⟩
    | cons x xs => simp [none x List.mem_cons_self]
  have front := whole isLeading ds fun d member => by
    have content := contents d member
    cases d with
    | before | slot => cases content
    | _ => rfl
  have back := whole isTrailing ds.reverse fun d member => by
    have content := contents d (List.mem_reverse.1 member)
    cases d with
    | after | slot => cases content
    | _ => rfl
  simp only [ofParts, front, back, List.reverse_reverse, List.reverse_nil]

/-- A final document is opened to the parts of its canonical form. -/
theorem opened_of_isFinal {d : Doc} (final : d.isFinal) : d.opened = d.expand.items := by
  have enclosed : ∀ (w : Wrapper) (body : Doc), body.isFinal → body.opened = body.expand.items →
      (w.enclose body).opened = [w.enclose body.expand] := by
    intro w body final same
    -- Nothing at the edges of the body can leave it.
    have inner := hereditary_isFinal.items (hereditary_isFinal.expand final)
    rw [opened_enclose, same,
      Edges.ofParts_of_contents fun x member => isControl_of_isFinal (inner x member),
      concat_items (tidy_expand body)]
    rfl
  induction d with
  | empty => rfl
  | leaf l => rfl
  | group body ih => exact enclosed .group body final (ih final)
  | indent amount body ih => exact enclosed (.indent amount) body final (ih final)
  | seq parts ih =>
    rw [opened_seq_eq_flatMap, items_expand_seq]
    exact List.flatMap_congr fun d member => ih d member (allFinal_iff.1 final d member)
  | join | after | before | slot => cases final

theorem assemble_items (settle : Doc → Doc) {d : Doc} (tidy : d.Tidy) (final : d.isFinal)
    (same : ∀ x ∈ d.items, toCell settle x = .raw x) :
    assemble settle (toCells settle d.items) = d := by
  have cells : toCells settle d.items = d.items.map .raw := by
    rw [toCells_eq_map]
    exact List.map_congr_left same
  have contents : ∀ c ∈ d.items.map Cell.raw, c.isControl = false :=
    List.forall_mem_map.2 fun x member => isControl_of_isFinal (hereditary_isFinal.items final x member)
  have docs : (d.items.map Cell.raw).map Cell.doc = d.items := by
    rw [List.map_map]
    exact List.map_id _
  rw [assemble, cells, Cell.sweep_eq_reduce, List.nil_append, Cell.reduce_of_contents contents, docs,
    concat_items tidy]

theorem toCell_of_isFinal (settle : Doc → Doc) {d : Doc} (tidy : d.Tidy) :
    ∀ x ∈ d.items, x.isFinal → toCell settle x = .raw x := by
  refine tidy.induction ?_ ?_ ?_ ?_
  · exact fun l _ => rfl
  · intro c control final
    rw [isControl_of_isFinal final] at control
    cases control
  · intro body tidy ih final
    rw [toCell_group, assemble_items settle tidy final fun x member =>
      ih x member (hereditary_isFinal.items (d := body) final x member)]
  · intro amount body tidy ih final
    rw [toCell_indent, assemble_items settle tidy final fun x member =>
      ih x member (hereditary_isFinal.items (d := body) final x member)]

/-- A final document is resolved by moving the line breaks of its canonical form. -/
theorem resolve_of_isFinal {d : Doc} (final : d.isFinal) : resolve d = d.expand.sink := by
  have final' := hereditary_isFinal.expand final
  rw [resolve_eq_sink, reduced, opened_of_isFinal final,
    assemble_items resolve (tidy_expand d) final' fun x member =>
      toCell_of_isFinal resolve (tidy_expand d) x member (hereditary_isFinal.items final' x member)]

/-! ## Sequences spread out -/

mutual

/-- The parts of a document with the sequences among them opened and the empty ones left out. -/
def spread : Doc → List Doc
  | .empty => []
  | .seq parts => spreadAll parts
  | d => [d]
termination_by structural d => d

def spreadAll : List Doc → List Doc
  | [] => []
  | d :: ds => d.spread ++ spreadAll ds
termination_by structural ds => ds

end

theorem spreadAll_eq_flatMap (ds : List Doc) : spreadAll ds = ds.flatMap spread := by
  induction ds with
  | nil => rfl
  | cons d ds ih => rw [spreadAll, ih, List.flatMap_cons]

theorem spread_seq (parts : List Doc) : (Doc.seq parts).spread = parts.flatMap spread :=
  spreadAll_eq_flatMap parts

theorem spread_concat (ds : List Doc) : (concat ds).spread = ds.flatMap spread :=
  flatMap_concat rfl spread_seq ds

theorem spread_of_isPart {d : Doc} (part : d.isPart) : d.spread = [d] := by
  cases d with
  | empty | seq | join => cases part
  | _ => rfl

theorem Tidy.spread_eq {d : Doc} (tidy : d.Tidy) : d.spread = d.items := by
  rw [← flatMap_items rfl spread_seq d,
    List.flatMap_congr fun x member => spread_of_isPart (tidy.of_mem_items member).1,
    List.flatMap_singleton']

theorem isPart_of_mem_spread {d : Doc} (final : d.isFinal) : ∀ x ∈ d.spread, x.isPart := by
  induction d with
  | empty => exact List.forall_mem_nil _
  | seq parts ih =>
    rw [spread_seq]
    intro x member
    obtain ⟨d, inside, member⟩ := List.mem_flatMap.1 member
    exact ih d inside (allFinal_iff.1 final d inside) x member
  | join | after | before | slot => cases final
  | leaf | group | indent => exact List.forall_mem_singleton.2 rfl

/-- The canonical form of a final document has the same parts, each of them in canonical form. -/
theorem spread_expand {d : Doc} (final : d.isFinal) : d.expand.spread = d.spread.map expand := by
  induction d with
  | seq parts ih =>
    rw [expand, expandAll_eq_map, spread_concat, List.flatMap_map, spread_seq, List.map_flatMap]
    exact List.flatMap_congr fun d member => ih d member (allFinal_iff.1 final d member)
  | join | after | before | slot => cases final
  | _ => rfl

/-! ## Documents that are printed alike -/

theorem addWidths_assoc (a b c : Option Nat) :
    addWidths (addWidths a b) c = addWidths a (addWidths b c) := by
  cases a <;> cases b <;> cases c <;> simp [addWidths, Nat.add_assoc]

/-- Two documents need the same room on a line and print the same, wherever they stand. -/
structure Alike (layout : Layout) (d e : Doc) : Prop where
  flatWidth : d.flatWidth = e.flatWidth
  print : ∀ mode margin page, d.print layout mode margin page = e.print layout mode margin page
  overflows : d.overflows = e.overflows

namespace Alike

variable {layout : Layout} {d e f : Doc} {ds es : List Doc}

theorem refl (layout : Layout) (d : Doc) : Alike layout d d := ⟨rfl, fun _ _ _ => rfl, rfl⟩

theorem symm (alike : Alike layout d e) : Alike layout e d :=
  ⟨alike.flatWidth.symm, fun mode margin page => (alike.print mode margin page).symm,
    alike.overflows.symm⟩

theorem trans (first : Alike layout d e) (second : Alike layout e f) : Alike layout d f :=
  ⟨first.flatWidth.trans second.flatWidth,
    fun mode margin page => (first.print mode margin page).trans (second.print mode margin page),
    first.overflows.trans second.overflows⟩

/-- Whether a group is broken depends on the room that its body needs. -/
theorem group (alike : Alike layout d e) : Alike layout (.group d) (.group e) where
  flatWidth := alike.flatWidth
  print mode margin page := by
    have room : d.fits layout.width.toNat page.column = e.fits layout.width.toNat page.column := by
      rw [fits, fits, alike.flatWidth]
    rw [Doc.print, Doc.print, room, alike.print]
  overflows := alike.overflows

theorem indent (amount : Option UInt32) (alike : Alike layout d e) :
    Alike layout (.indent amount d) (.indent amount e) :=
  ⟨alike.flatWidth, fun mode _ page => alike.print mode _ page, alike.overflows⟩

theorem cons (first : Alike layout d e) (others : Alike layout (.seq ds) (.seq es)) :
    Alike layout (.seq (d :: ds)) (.seq (e :: es)) where
  flatWidth := by
    have behind : flatWidths ds = flatWidths es := others.flatWidth
    rw [Doc.flatWidth, Doc.flatWidth, flatWidths, flatWidths, first.flatWidth, behind]
  print mode margin page := by
    have behind := others.print mode margin (e.print layout mode margin page)
    rw [Doc.print, Doc.print, printAll, printAll, first.print]
    exact behind
  overflows := by
    have behind : anyOverflows ds = anyOverflows es := others.overflows
    rw [Doc.overflows, Doc.overflows, anyOverflows, anyOverflows, first.overflows, behind]

theorem map {g : Doc → Doc} (each : ∀ d ∈ ds, Alike layout (g d) d) :
    Alike layout (.seq (ds.map g)) (.seq ds) := by
  induction ds with
  | nil => exact refl layout _
  | cons d ds ih =>
    obtain ⟨first, others⟩ := List.forall_mem_cons.1 each
    exact first.cons (ih others)

/-- A sequence in front of a list of parts is printed like its own parts. -/
theorem append (layout : Layout) (ds es : List Doc) :
    Alike layout (.seq (.seq ds :: es)) (.seq (ds ++ es)) where
  flatWidth := by
    induction ds with
    | nil => simp [Doc.flatWidth, flatWidths, addWidths]
    | cons d ds ih =>
      simp only [Doc.flatWidth, flatWidths, List.cons_append] at ih ⊢
      rw [addWidths_assoc, ih]
  print mode margin page := by
    induction ds generalizing page with
    | nil => rfl
    | cons d ds ih => exact ih (d.print layout mode margin page)
  overflows := by
    induction ds with
    | nil => rfl
    | cons d ds ih =>
      simp only [Doc.overflows, anyOverflows, List.cons_append] at ih ⊢
      rw [Bool.or_assoc, ih]

theorem single (layout : Layout) (d : Doc) : Alike layout (.seq [d]) d where
  flatWidth := by
    rw [Doc.flatWidth, flatWidths, flatWidths]
    cases d.flatWidth <;> rfl
  print _ _ _ := rfl
  overflows := Bool.or_false d.overflows

theorem spread (layout : Layout) (d : Doc) : Alike layout (.seq d.spread) d := by
  induction d with
  | empty => exact ⟨rfl, fun _ _ _ => rfl, rfl⟩
  | seq parts ih =>
    rw [spread_seq]
    induction parts with
    | nil => exact refl layout _
    | cons d ds ihs =>
      obtain ⟨first, others⟩ := List.forall_mem_cons.1 ih
      exact (append layout d.spread _).symm.trans (first.cons (ihs others))
  | _ => exact single layout _

/-- What is printed depends on the parts alone, however they stand together in sequences. -/
theorem of_spread (same : d.spread = e.spread) : Alike layout d e :=
  (spread layout d).symm.trans (same ▸ spread layout e)

theorem concat (layout : Layout) (ds : List Doc) : Alike layout (concat ds) (.seq ds) :=
  of_spread ((spread_concat ds).trans (spread_seq ds).symm)

end Alike

/-- The canonical form of a final document is printed like the document. -/
theorem alike_expand (layout : Layout) {d : Doc} (final : d.isFinal) : Alike layout d.expand d := by
  induction d with
  | empty | leaf => exact .refl layout _
  | group body ih => exact (ih final).group
  | indent amount body ih => exact (ih final).indent amount
  | seq parts ih =>
    rw [expand, expandAll_eq_map]
    exact (Alike.concat layout _).trans
      (.map fun d member => ih d member (allFinal_iff.1 final d member))
  | join | after | before | slot => cases final

/-! ## Breaks that are not moved -/

def isIndent : Doc → Bool
  | .indent .. => true
  | _ => false

/-- The second of two documents is no indentation that the first is moved into. -/
def Apart (d e : Doc) : Prop := d.isBreak → e.isIndent = false

mutual

/-- No sequence of a document, spread out, has a line break directly before an indentation. -/
def BreaksApart : Doc → Prop
  | .group body => body.BreaksApart
  | .indent _ body => body.BreaksApart
  | .seq parts => (spreadAll parts).IsChain Apart ∧ AllBreaksApart parts
  | _ => True
termination_by structural d => d

/-- The same of all documents of a list. -/
def AllBreaksApart : List Doc → Prop
  | [] => True
  | d :: ds => d.BreaksApart ∧ AllBreaksApart ds
termination_by structural ds => ds

end

theorem allBreaksApart_iff {ds : List Doc} : AllBreaksApart ds ↔ ∀ d ∈ ds, d.BreaksApart := by
  induction ds with
  | nil => simp [AllBreaksApart]
  | cons d ds ih => rw [AllBreaksApart, ih, List.forall_mem_cons]

/-- A document that is no sequence is looked at like the sequence of its only part. -/
theorem breaksApart_iff_items {d : Doc} :
    d.BreaksApart ↔ d.spread.IsChain Apart ∧ ∀ x ∈ d.items, x.BreaksApart := by
  cases d with
  | empty => simp [BreaksApart, spread, items]
  | seq parts => rw [BreaksApart, allBreaksApart_iff, spread, items]
  | _ => simp [spread, items]

theorem isBreak_expand {d : Doc} (part : d.isPart) : d.expand.isBreak = d.isBreak := by
  cases d with
  | empty | seq | join => cases part
  | _ => rfl

theorem isIndent_expand {d : Doc} (part : d.isPart) : d.expand.isIndent = d.isIndent := by
  cases d with
  | empty | seq | join => cases part
  | _ => rfl

theorem BreaksApart.expand {d : Doc} (final : d.isFinal) (apart : d.BreaksApart) :
    d.expand.BreaksApart := by
  induction d with
  | group body ih => exact ih final apart
  | indent amount body ih => exact ih final apart
  | seq parts ih =>
    obtain ⟨chain, inner⟩ := breaksApart_iff_items.1 apart
    have members := isPart_of_mem_spread final
    refine breaksApart_iff_items.2 ⟨?_, ?_⟩
    -- Neighbours stay neighbours, and what is a break or an indentation stays one.
    · rw [spread_expand final, List.isChain_map]
      refine chain.imp_of_mem_imp fun a b first second apart => ?_
      rw [Apart, isBreak_expand (members a first), isIndent_expand (members b second)]
      exact apart
    · rw [items_expand_seq]
      intro x member
      obtain ⟨d, inside, member⟩ := List.mem_flatMap.1 member
      have own := ih d inside (allFinal_iff.1 final d inside) (inner d inside)
      exact (breaksApart_iff_items.1 own).2 x member
  | join | after | before | slot => cases final
  | _ => exact apart

theorem moveBreaks_of_isChain {ds : List Doc} (chain : ds.IsChain Apart) : moveBreaks ds = ds := by
  induction ds with
  | nil => rw [moveBreaks]
  | cons d ds ih =>
    obtain ⟨next, chain⟩ := List.isChain_cons.1 chain
    have stays : d.isBreak → startsIndented ds = false := by
      intro isBreak
      cases ds with
      | nil => rfl
      | cons e ds =>
        have other := next e rfl isBreak
        cases e with
        | indent => cases other
        | _ => rfl
    rw [moveBreaks_cons stays, ih chain]

/-- Where no break stands in front of an indentation, a document in canonical form stays as it is. -/
theorem sink_of_breaksApart {d : Doc} (tidy : d.Tidy) (apart : d.BreaksApart) : d.sink = d := by
  induction d with
  | group body ih => rw [sink, ih tidy apart]
  | indent amount body ih => rw [sink, ih tidy apart]
  | seq parts ih =>
    obtain ⟨chain, inner⟩ := breaksApart_iff_items.1 apart
    have same : parts.map sink = parts :=
      (List.map_congr_left fun d member =>
        ih d member (tidyAll_iff.1 tidy.2 d member).2 (inner d member)).trans (List.map_id parts)
    rw [tidy.spread_eq, items] at chain
    rw [sink, sinkAll_eq_map, same, moveBreaks_of_isChain chain]
    exact concat_items tidy
  | _ => rfl

/-! ## Indentations that add no column -/

mutual

/-- Whether no indentation of a document outside control nodes says of itself that it adds columns. -/
def isFlush : Doc → Bool
  | .empty | .leaf _ | .after _ | .before _ | .slot .. => true
  | .group body => body.isFlush
  | .indent amount body => amount.all (· == 0) && body.isFlush
  | .seq parts => allFlush parts
  | .join items _ => allFlush items
termination_by structural d => d

/-- Whether the same holds of all documents of a list. -/
def allFlush : List Doc → Bool
  | [] => true
  | d :: ds => d.isFlush && allFlush ds
termination_by structural ds => ds

end

theorem allFlush_iff {ds : List Doc} : allFlush ds ↔ ∀ d ∈ ds, d.isFlush := by
  induction ds with
  | nil => simp [allFlush]
  | cons d ds ih => rw [allFlush, Bool.and_eq_true, ih, List.forall_mem_cons]

theorem isFlush_indent {amount : Option UInt32} {body : Doc} :
    (Doc.indent amount body).isFlush ↔ amount.getD 0 = 0 ∧ body.isFlush := by
  rw [isFlush, Bool.and_eq_true]
  cases amount <;> simp

theorem hereditary_isFlush : Hereditary (fun d => d.isFlush) where
  group flush := ⟨flush, fun flush' => flush'⟩
  indent flush := by
    obtain ⟨none, inner⟩ := isFlush_indent.1 flush
    exact ⟨inner, fun flush' => isFlush_indent.2 ⟨none, flush'⟩⟩
  part flush := allFlush_iff.1 flush
  join flush := ⟨allFlush_iff.1 flush, rfl⟩
  concat := holds_concat (P := fun d => d.isFlush) rfl allFlush_iff

section Flush

variable {layout : Layout} (level : layout.unit = 0)
include level

theorem alike_indent {amount : Option UInt32} (none : amount.getD 0 = 0) (body : Doc) :
    Alike layout (.indent amount body) body where
  flatWidth := rfl
  print mode margin page := by
    have unindented : amount.getD layout.unit = 0 := by rw [level, none]
    rw [print, unindented]
    rfl
  overflows := rfl

/-- A break ends a line in front of an indentation as it does inside. -/
theorem alike_moveBreaks {ds : List Doc} (flush : ∀ d ∈ ds, d.isFlush) :
    Alike layout (.seq (moveBreaks ds)) (.seq ds) := by
  fun_induction moveBreaks ds with
  | case1 => exact .refl layout _
  | case2 => exact .refl layout _
  | case3 d amount body rest _ ih =>
    obtain ⟨-, indented, flush⟩ := by simpa only [List.forall_mem_cons] using flush
    -- Without a margin the indentation may be left out, in front of the break as behind it.
    have unindented := alike_indent level (isFlush_indent.1 indented).1
    have inside : Alike layout (.indent amount (concat [d, body])) (.seq [d, body]) :=
      (unindented _).trans (.concat layout _)
    have inFront : Alike layout (.seq [d, .indent amount body]) (.seq [d, body]) :=
      .cons (.refl layout d) (.cons (unindented body) (.refl layout _))
    exact ((inside.trans inFront.symm).cons (ih flush)).trans (.append layout _ rest)
  | case4 d amount body rest _ ih => exact .cons (.refl layout d) (ih (List.forall_mem_cons.1 flush).2)
  | case5 d next rest _ ih => exact .cons (.refl layout d) (ih (List.forall_mem_cons.1 flush).2)

theorem alike_sink {d : Doc} (flush : d.isFlush) : Alike layout d.sink d := by
  induction d with
  | group body ih => exact (ih flush).group
  | indent amount body ih => exact (ih (isFlush_indent.1 flush).2).indent amount
  | seq parts ih =>
    have inner := allFlush_iff.1 flush
    have sunk : ∀ d ∈ parts.map sink, d.isFlush :=
      List.forall_mem_map.2 fun d member => hereditary_isFlush.sink (inner d member)
    rw [sink, sinkAll_eq_map]
    exact ((Alike.concat layout _).trans (alike_moveBreaks level sunk)).trans
      (.map fun d member => ih d member (inner d member))
  | _ => exact .refl layout _

end Flush

/-! ## Resolved documents on the page -/

/-- On a final document resolution changes nothing but indentation -/
theorem render_resolve_of_isFinal {d : Doc} (final : d.isFinal) (layout : Layout)
    (kept : d.BreaksApart ∨ layout.unit = 0 ∧ d.isFlush) :
    (resolve d).render layout = d.render layout ∧ (resolve d).render? layout = d.render? layout := by
  have alike : Alike layout (resolve d) d := by
    rw [resolve_of_isFinal final]
    rcases kept with apart | ⟨level, flush⟩
    · rw [sink_of_breaksApart (tidy_expand d) (apart.expand final)]
      exact alike_expand layout final
    · exact (alike_sink level (hereditary_isFlush.expand flush)).trans (alike_expand layout final)
  have text : (resolve d).render layout = d.render layout := by
    rw [render, render, alike.print]
  exact ⟨text, by rw [render?, render?, alike.overflows, text]⟩

/-- A break in front of a group that holds an indentation stays there, and one in front of an
indentation is moved, which does not show if no line is indented. -/
theorem render_resolve_of_isFinal_block :
    (resolve (.seq [.text "do", .seq [.hardline 0, .empty],
        .seq [.group (.indent none (.seq [.text "a"])), .empty, .indent none (.text "b")]])).render {}
        = "do\nab" ∧
      (resolve (.seq [.text "do", .seq [.hardline 0, .empty],
        .seq [.indent (some 0) (.seq [.text "a", .line, .text "b"])]])).render ⟨0, 80⟩ = "do\na\nb" := by
  have apart : (Doc.seq [.text "do", .seq [.hardline 0, .empty],
      .seq [.group (.indent none (.seq [.text "a"])), .empty, .indent none (.text "b")]]).BreaksApart := by
    simp [BreaksApart, AllBreaksApart, spreadAll, spread, Apart, isBreak, isIndent]
  exact ⟨(render_resolve_of_isFinal rfl {} (.inl apart)).1.trans (by decide),
    (render_resolve_of_isFinal rfl ⟨0, 80⟩ (.inr ⟨rfl, rfl⟩)).1.trans (by decide)⟩

/-- With lines that are indented it does show. -/
example : (resolve (.seq [.hardline 0, .indent none (.text "a")])).render {} = "\n    a" ∧
    (Doc.seq [.hardline 0, .indent none (.text "a")]).render {} = "\na" := by
  have moved : (Doc.seq [.hardline 0, .indent none (.text "a")]).expand.sink
      = .indent none (.seq [.hardline 0, .text "a"]) := by
    simp [expand, expandAll, concat, sink, sinkAll, moveBreaks, splice, items, ofParts, isBreak, isEmpty]
  rw [resolve_of_isFinal rfl, moved]
  decide

end Reprint.Doc
