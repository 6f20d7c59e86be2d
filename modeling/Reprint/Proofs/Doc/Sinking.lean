import Reprint.Proofs.Doc.Ending
import Reprint.Proofs.Doc.Parts
import Reprint.Proofs.Doc.Runs

/-!
# Line breaks in front of indentations

A line break that comes to stand in front of an indentation is moved into it, so that the
first line of a block is indented like the others.  One pass over the document does this, from
the inside out.  So a break that is moved into an indentation is not moved on if the body
begins with one more, and of two breaks in a row only the second one is moved.  These are the
only breaks that are left in front of an indentation (`someBreakBefore_resolve`).
-/

namespace Reprint.Doc

/-! ## What stands behind a break -/

mutual

/-- Whether in some sequence of a document what stands behind a line break meets a condition. -/
def someBreakBefore (meets : List Doc → Bool) : Doc → Bool
  | .group body => body.someBreakBefore meets
  | .indent _ body => body.someBreakBefore meets
  | .seq parts => someBreakBeforeAll meets parts
  | _ => false
termination_by structural d => d

def someBreakBeforeAll (meets : List Doc → Bool) : List Doc → Bool
  | [] => false
  | d :: ds => d.isBreak && meets ds || (d.someBreakBefore meets || someBreakBeforeAll meets ds)
termination_by structural ds => ds

end

/-- Whether an indentation stands first. -/
def startsIndented : List Doc → Bool
  | .indent .. :: _ => true
  | _ => false

/-- Whether an indentation stands first or does so when a break has been moved into it. -/
def opensIndented : List Doc → Bool
  | .indent .. :: _ => true
  | d :: next => d.isBreak && startsIndented next
  | [] => false

/-- Whether a break in front of the parts comes to stand in front of an indentation: in the
body of the indentation that it is moved into, or where it is if it is not moved. -/
def staysOut : List Doc → Bool
  | .indent _ body :: _ => opensIndented body.items
  | ds => opensIndented ds

theorem staysOut_of_startsIndented {ds : List Doc} (other : startsIndented ds = false) :
    staysOut ds = opensIndented ds := by
  unfold staysOut
  split
  · cases other
  · rfl

theorem someBreakBeforeAll_indent (meets : List Doc → Bool) (amount : Option UInt32) (body : Doc)
    (rest : List Doc) :
    someBreakBeforeAll meets (.indent amount body :: rest)
      = (body.someBreakBefore meets || someBreakBeforeAll meets rest) := rfl

/-- A document that is no sequence is looked at like the sequence of its only part. -/
theorem someBreakBeforeAll_items {meets : List Doc → Bool} (nothing : meets [] = false) (d : Doc) :
    someBreakBeforeAll meets d.items = d.someBreakBefore meets := by
  cases d <;> simp [items, someBreakBeforeAll, someBreakBefore, nothing]

theorem someBreakBefore_of_isBreak (meets : List Doc → Bool) {d : Doc} (isBreak : d.isBreak) :
    d.someBreakBefore meets = false := by
  cases d with
  | leaf => rfl
  | _ => cases isBreak

/-! ## One list -/

theorem moveBreaks_of_isBreak {d : Doc} (isBreak : d.isBreak) (amount : Option UInt32) (body : Doc)
    (rest : List Doc) :
    moveBreaks (d :: .indent amount body :: rest)
      = .indent amount (concat [d, body]) :: moveBreaks rest := by
  rw [moveBreaks, if_pos isBreak]

theorem moveBreaks_cons {d : Doc} {ds : List Doc} (stays : d.isBreak → startsIndented ds = false) :
    moveBreaks (d :: ds) = d :: moveBreaks ds := by
  cases ds with
  | nil => simp [moveBreaks]
  | cons e rest =>
    cases e with
    | indent amount body =>
      have content : ¬d.isBreak := by
        intro isBreak
        cases stays isBreak
      rw [moveBreaks, if_neg content]
    | _ => simp [moveBreaks]

/-- Nothing but the first two parts decides whether an indentation is first after the pass. -/
theorem startsIndented_moveBreaks (ds : List Doc) :
    startsIndented (moveBreaks ds) = opensIndented ds := by
  fun_cases moveBreaks ds with
  | case1 => rfl
  | case2 d => cases d <;> simp [startsIndented, opensIndented]
  | case3 d amount body rest isBreak => cases d <;> simp_all [startsIndented, opensIndented]
  | case4 d amount body rest content => cases d <;> simp_all [startsIndented, opensIndented]
  | case5 d next rest other =>
    cases d <;> cases next <;> simp_all [startsIndented, opensIndented]

theorem isPart_of_mem_moveBreaks {ds : List Doc} (parts : ∀ d ∈ ds, d.isPart) :
    ∀ d ∈ moveBreaks ds, d.isPart := by
  fun_induction moveBreaks ds with
  | case1 => exact parts
  | case2 => exact parts
  | case3 d amount body rest _ ih =>
    exact List.forall_mem_cons.2 ⟨rfl, ih fun x member =>
      parts x (List.mem_cons_of_mem _ (List.mem_cons_of_mem _ member))⟩
  | case4 d amount body rest _ ih =>
    obtain ⟨first, others⟩ := List.forall_mem_cons.1 parts
    exact List.forall_mem_cons.2 ⟨first, ih others⟩
  | case5 d next rest _ ih =>
    obtain ⟨first, others⟩ := List.forall_mem_cons.1 parts
    exact List.forall_mem_cons.2 ⟨first, ih others⟩

/-! ## The parts of a document -/

theorem isPart_sink {d : Doc} (part : d.isPart) : d.sink.isPart := by
  cases d with
  | empty | seq | join => cases part
  | _ => rfl

theorem isBreak_sink {d : Doc} (part : d.isPart) : d.sink.isBreak = d.isBreak := by
  cases d with
  | empty | seq | join => cases part
  | _ => rfl

theorem sink_of_isBreak {d : Doc} (isBreak : d.isBreak) : d.sink = d := by
  cases d with
  | leaf => rfl
  | _ => cases isBreak

/-- The parts of a document in canonical form after the pass. -/
theorem items_sink {d : Doc} (tidy : d.Tidy) : d.sink.items = moveBreaks (d.items.map sink) := by
  cases d with
  | seq parts =>
    have sunk : ∀ x ∈ moveBreaks (parts.map sink), x.isPart :=
      isPart_of_mem_moveBreaks (List.forall_mem_map.2 fun x member =>
        isPart_sink (tidyAll_iff.1 tidy.2 x member).1)
    rw [sink, sinkAll_eq_map, concat_of_isPart sunk, items_ofParts sunk, items]
  | _ => simp [sink, items, moveBreaks]

theorem startsIndented_sink {ds : List Doc} (parts : ∀ d ∈ ds, d.isPart) :
    startsIndented (ds.map sink) = startsIndented ds := by
  cases ds with
  | nil => rfl
  | cons d ds =>
    have part := parts d List.mem_cons_self
    cases d with
    | empty | seq | join => cases part
    | _ => rfl

theorem opensIndented_sink {ds : List Doc} (parts : ∀ d ∈ ds, d.isPart) :
    opensIndented (ds.map sink) = opensIndented ds := by
  cases ds with
  | nil => rfl
  | cons d ds =>
    obtain ⟨part, others⟩ := List.forall_mem_cons.1 parts
    have behind := startsIndented_sink others
    cases d with
    | empty | seq | join => cases part
    | indent => rfl
    | leaf l => exact congrArg ((Doc.leaf l).isBreak && ·) behind
    | group | after | before | slot => rfl

theorem startsIndented_items_sink {d : Doc} (tidy : d.Tidy) :
    startsIndented d.sink.items = opensIndented d.items := by
  rw [items_sink tidy, startsIndented_moveBreaks,
    opensIndented_sink fun x member => (tidy.of_mem_items member).1]

/-! ## The whole document -/

/-- A break that is moved into an indentation stands in front of its body there. -/
theorem someBreakBefore_concat {meets : List Doc → Bool} (nothing : meets [] = false) {d body : Doc}
    (isBreak : d.isBreak) (tidy : body.Tidy) :
    (concat [d, body]).someBreakBefore meets = (meets body.items || body.someBreakBefore meets) := by
  have own : d.Tidy ∧ d.items = [d] := by
    cases d with
    | leaf => exact ⟨trivial, rfl⟩
    | _ => cases isBreak
  have items : (concat [d, body]).items = d :: body.items := by
    rw [items_concat (List.forall_mem_cons.2 ⟨own.1, List.forall_mem_singleton.2 tidy⟩)]
    simp [own.2]
  rw [← someBreakBeforeAll_items nothing, items, someBreakBeforeAll, isBreak,
    someBreakBefore_of_isBreak meets isBreak, someBreakBeforeAll_items nothing]
  rfl

/-- A break that is moved comes to stand in front of what its new body begins with. -/
theorem someBreakBeforeAll_of_moves {d body : Doc} {amount : Option UInt32} {rest : List Doc}
    (isBreak : d.isBreak) (tidy : body.Tidy)
    (own : body.sink.someBreakBefore startsIndented = body.someBreakBefore staysOut)
    (others : someBreakBeforeAll startsIndented (moveBreaks (rest.map sink))
      = someBreakBeforeAll staysOut rest) :
    someBreakBeforeAll startsIndented (moveBreaks ((d :: .indent amount body :: rest).map sink))
      = someBreakBeforeAll staysOut (d :: .indent amount body :: rest) := by
  have moved : (concat [d, body.sink]).someBreakBefore startsIndented
      = (opensIndented body.items || body.someBreakBefore staysOut) := by
    rw [someBreakBefore_concat rfl isBreak (hereditary_tidy.sink tidy), startsIndented_items_sink tidy,
      own]
  have inFront : staysOut (.indent amount body :: rest) = opensIndented body.items := rfl
  rw [List.map_cons, List.map_cons, sink_of_isBreak isBreak, sink, moveBreaks_of_isBreak isBreak,
    someBreakBeforeAll_indent, moved, others, someBreakBeforeAll, someBreakBeforeAll_indent, inFront,
    someBreakBefore_of_isBreak _ isBreak, isBreak, Bool.true_and, Bool.false_or, Bool.or_assoc]

/-- A break that is not moved stays in front of what is behind it after the pass. -/
theorem someBreakBeforeAll_of_stays {d : Doc} {ds : List Doc} (parts : ∀ x ∈ d :: ds, x.isPart)
    (stays : d.isBreak → startsIndented ds = false)
    (own : d.sink.someBreakBefore startsIndented = d.someBreakBefore staysOut)
    (others : someBreakBeforeAll startsIndented (moveBreaks (ds.map sink))
      = someBreakBeforeAll staysOut ds) :
    someBreakBeforeAll startsIndented (moveBreaks ((d :: ds).map sink))
      = someBreakBeforeAll staysOut (d :: ds) := by
  obtain ⟨part, parts⟩ := List.forall_mem_cons.1 parts
  have kept : d.sink.isBreak → startsIndented (ds.map sink) = false := by
    rw [isBreak_sink part, startsIndented_sink parts]
    exact stays
  have behind : (d.isBreak && opensIndented ds) = (d.isBreak && staysOut ds) := by
    cases isBreak : d.isBreak with
    | false => rfl
    | true => rw [staysOut_of_startsIndented (stays isBreak)]
  rw [List.map_cons, moveBreaks_cons kept, someBreakBeforeAll, someBreakBeforeAll,
    startsIndented_moveBreaks, opensIndented_sink parts, isBreak_sink part, own, others, behind]

/-- What the pass leaves in a list, given what it leaves in each of its parts. -/
theorem someBreakBeforeAll_moveBreaks {ds : List Doc} (parts : ∀ d ∈ ds, d.isPart ∧ d.Tidy)
    (inner : ∀ d ∈ ds, d.sink.someBreakBefore startsIndented = d.someBreakBefore staysOut) :
    someBreakBeforeAll startsIndented (moveBreaks (ds.map sink)) = someBreakBeforeAll staysOut ds := by
  -- The pass goes over the finished parts as it would over the parts themselves: finishing a part
  -- neither makes it a break or an indentation nor keeps it from being one.
  fun_induction moveBreaks ds with
  | case1 => simp [moveBreaks, someBreakBeforeAll]
  | case2 d =>
    have own := inner d List.mem_cons_self
    simp [moveBreaks, someBreakBeforeAll, startsIndented, staysOut, opensIndented, own]
  | case3 d amount body rest isBreak ih =>
    obtain ⟨-, ⟨-, tidy⟩, parts⟩ := by simpa only [List.forall_mem_cons] using parts
    obtain ⟨-, own, inner⟩ := by simpa only [List.forall_mem_cons] using inner
    exact someBreakBeforeAll_of_moves isBreak tidy own (ih parts inner)
  | case4 d amount body rest content ih =>
    obtain ⟨own, others⟩ := List.forall_mem_cons.1 inner
    exact someBreakBeforeAll_of_stays (fun x member => (parts x member).1)
      (fun isBreak => absurd isBreak content) own
      (ih (List.forall_mem_cons.1 parts).2 others)
  | case5 d next rest other ih =>
    obtain ⟨own, others⟩ := List.forall_mem_cons.1 inner
    have content : startsIndented (next :: rest) = false := by
      cases next with
      | indent amount body => exact (other amount body rfl).elim
      | _ => rfl
    exact someBreakBeforeAll_of_stays (fun x member => (parts x member).1) (fun _ => content) own
      (ih (List.forall_mem_cons.1 parts).2 others)

/-- Which breaks stand in front of an indentation after the pass. -/
theorem someBreakBefore_sink {d : Doc} (tidy : d.Tidy) :
    d.sink.someBreakBefore startsIndented = d.someBreakBefore staysOut := by
  induction d with
  | group body ih => exact ih tidy
  | indent amount body ih => exact ih tidy
  | seq parts ih =>
    have all := tidyAll_iff.1 tidy.2
    rw [← someBreakBeforeAll_items rfl, items_sink tidy, items, someBreakBefore]
    exact someBreakBeforeAll_moveBreaks all fun d member => ih d member (all d member).2
  | _ => rfl

/-! ## Resolved documents -/

/-- A document with everything decided and breaks not yet moved. -/
def reduced (d : Doc) : Doc := assemble resolve (toCells resolve d.opened)

theorem resolve_eq_sink (d : Doc) : resolve d = d.reduced.sink := by
  rw [resolve_eq, resolveWith_eq, reduced]

theorem tidy_reduced (d : Doc) : d.reduced.Tidy :=
  hereditary_tidy.assemble_opened hereditary_true (fun _ => trivial) (fun _ tidy => tidy)
    (fun _ tidy => tidy) (fun x _ => tidy_resolve x) (fun x _ => tidy_resolve x) (fun _ held => held)
    trivial (governed_of_nesting (Nat.le_refl d.nesting))

/-- In a resolved document a line break is left in front of an indentation exactly if it was
in front of an indentation that itself begins with one, or with a break and one, or in front of
a break that is in front of one. -/
theorem someBreakBefore_resolve (d : Doc) :
    (resolve d).someBreakBefore startsIndented = d.reduced.someBreakBefore staysOut := by
  rw [resolve_eq_sink]
  exact someBreakBefore_sink (tidy_reduced d)

/-- A break in front of two indentations, one around the other, is moved into the outer one
only. -/
theorem resolve_nestedIndent :
    resolve (.seq [.text "begin", .after (.hardline 0),
        .indent none (.indent none (.seq [.slot (some .empty) none false, .text "x"]))])
        = .seq [.text "begin", .indent none (.seq [.hardline 0, .indent none (.text "x")])] ∧
      (resolve (.seq [.text "begin", .after (.hardline 0),
        .indent none (.indent none (.seq [.slot (some .empty) none false, .text "x"]))])).someBreakBefore
          startsIndented := by
  have resolved : resolve (.seq [.text "begin", .after (.hardline 0),
        .indent none (.indent none (.seq [.slot (some .empty) none false, .text "x"]))])
      = .seq [.text "begin", .indent none (.seq [.hardline 0, .indent none (.text "x")])] := by
    have closed : (Doc.seq [.text "begin", .after (.hardline 0),
          .indent none (.indent none (.seq [.slot (some .empty) none false, .text "x"]))]).opened
        = [.text "begin", .after (.hardline 0), .slot (some .empty) none false,
          .indent none (.indent none (.text "x"))] := rfl
    have applied : Cell.step? resolve
        [.raw (.after (.hardline 0)), .raw (.slot (some .empty) none false)]
        = some [.settled (resolve (.hardline 0))] := rfl
    have broken : resolve (.hardline 0) = .hardline 0 := resolveWith_leaf id _
    have nothing : Cell.reduce resolve [] = [] := Cell.reduce_of_contents (List.forall_mem_nil _)
    have run : Cell.reduce resolve [.raw (.after (.hardline 0)), .raw (.slot (some .empty) none false)]
        = [.settled (.hardline 0)] := by
      rw [Cell.reduce_of_step? applied, Cell.reduce_of_contents (List.forall_mem_singleton.2 rfl), broken]
    rw [resolve_eq, resolveWith_eq, closed]
    simp [toCells, toCell, assemble, sweep, nothing, run, Cell.isControl, isControl, Cell.isNewline,
      Cell.doc, concat, splice, items, isEmpty, ofParts, sink, sinkAll, moveBreaks, isBreak]
  refine ⟨resolved, ?_⟩
  rw [resolved]
  rfl

end Reprint.Doc
