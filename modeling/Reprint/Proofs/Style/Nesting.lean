import Reprint.Proofs.Style.History

/-!
# Brackets at one anchor

Several directives may open and close brackets at one anchor.  An entry keeps the
closings in front of the openings (`Style.unwinds_generalAt`), so that brackets which
end here are closed before others begin.  Where a rule has an entry of its own, the
general openings come in front of all that is the rule's and the general closings
behind it, which turns that order round.
-/

namespace Reprint

/-! ## Directives -/

namespace Directive

def isOpening : Directive → Bool
  | .opening _ => true
  | .spacing _ | .closing _ => false

@[simp] theorem isSpacing_spacing (d : Doc) : (spacing d).isSpacing = true := rfl

@[simp] theorem isSpacing_opening (b : Bracket) : (opening b).isSpacing = false := rfl

@[simp] theorem isSpacing_closing (name : BracketName) : (closing name).isSpacing = false := rfl

@[simp] theorem isClosing_spacing (d : Doc) : (spacing d).isClosing = false := rfl

@[simp] theorem isClosing_opening (b : Bracket) : (opening b).isClosing = false := rfl

@[simp] theorem isClosing_closing (name : BracketName) : (closing name).isClosing = true := rfl

@[simp] theorem isOpening_spacing (d : Doc) : (spacing d).isOpening = false := rfl

@[simp] theorem isOpening_opening (b : Bracket) : (opening b).isOpening = true := rfl

@[simp] theorem isOpening_closing (name : BracketName) : (closing name).isOpening = false := rfl

/-- The brackets that are open behind directives, innermost first, if those in
front are open before; `none` if one is closed that is not the innermost. -/
def openAfter? : List BracketName → List Directive → Option (List BracketName)
  | names, [] => some names
  | names, .spacing _ :: ds => openAfter? names ds
  | names, .opening b :: ds => openAfter? (b.name :: names) ds
  | [], .closing _ :: _ => none
  | innermost :: names, .closing name :: ds =>
    if innermost = name then openAfter? names ds else none

variable (names : List BracketName) (ds : List Directive)

@[simp] theorem openAfter?_nil : openAfter? names [] = some names := by
  cases names <;> rfl

@[simp] theorem openAfter?_spacing (d : Doc) : openAfter? names (.spacing d :: ds) = openAfter? names ds := by
  cases names <;> rfl

@[simp] theorem openAfter?_opening (b : Bracket) :
    openAfter? names (.opening b :: ds) = openAfter? (b.name :: names) ds := by
  cases names <;> rfl

/-- Spacing opens no bracket and closes none. -/
theorem openAfter?_filter : openAfter? names (ds.filter fun d => !d.isSpacing) = openAfter? names ds := by
  induction ds generalizing names with
  | nil => rfl
  | cons d ds ih =>
    cases d with
    | spacing => rw [List.filter_cons_of_neg (by simp), ih, openAfter?_spacing]
    | opening b => rw [List.filter_cons_of_pos (by simp), openAfter?_opening, openAfter?_opening, ih]
    | closing name =>
      rw [List.filter_cons_of_pos (by simp)]
      cases names with
      | nil => rfl
      | cons innermost names =>
        rw [openAfter?, openAfter?, ih]

variable {ds}

theorem filter_eq_nil_of_spacing (spaced : ∀ d ∈ ds, d.isSpacing) :
    ds.filter (fun d => !d.isSpacing) = [] := by
  rw [List.filter_eq_nil_iff]
  intro d member
  simp [spaced d member]

theorem openAfter?_of_spacing (spaced : ∀ d ∈ ds, d.isSpacing) : openAfter? names ds = some names := by
  rw [← openAfter?_filter, filter_eq_nil_of_spacing spaced, openAfter?_nil]

end Directive

/-! ## Entries -/

namespace Entry

/-- The directives that open and close brackets. -/
def brackets (e : Entry) : List Directive := e.directives.filter fun d => !d.isSpacing

def openings (e : Entry) : List Directive := e.directives.filter Directive.isOpening

def closings (e : Entry) : List Directive := e.directives.filter Directive.isClosing

/-- The closings of an entry stand in front of its openings. -/
def Unwinds (e : Entry) : Prop := e.brackets = e.closings ++ e.openings

theorem unwinds_add {e : Entry} (unwinds : e.Unwinds) (d : Directive) : (e.add d).Unwinds := by
  unfold Unwinds brackets closings openings at *
  cases d with
  | spacing | opening => simp [add, List.filter_cons, unwinds]
  | closing => simp [add, List.filter_cons, unwinds]

/-- Spacing and treatments of a rule leave the general brackets as they are, up to
their order: openings come first. -/
theorem brackets_within {own : Entry} (spaced : ∀ d ∈ own.directives, d.isSpacing) (general : Entry) :
    (own.within general).brackets = general.openings ++ general.closings := by
  have none := Directive.filter_eq_nil_of_spacing spaced
  unfold brackets openings closings within
  simp only [List.filter_append, List.filter_filter, none, List.append_nil]
  congr 1
  · refine List.filter_congr fun d _ => ?_
    cases d <;> simp
  · refine List.filter_congr fun d _ => ?_
    cases d <;> rfl

/-- Openings in front and closings behind is the order of an entry only where it
has none of the ones or none of the others. -/
theorem openings_append_closings_eq {e : Entry} (unwinds : e.Unwinds) :
    e.openings ++ e.closings = e.brackets ↔ e.openings = [] ∨ e.closings = [] := by
  rw [unwinds]
  constructor
  · intro same
    cases opened : e.openings with
    | nil => exact .inl rfl
    | cons d ds =>
      cases closed : e.closings with
      | nil => exact .inr rfl
      | cons d' ds' =>
        -- Both lists begin with the same directive, which would have to open and to close.
        rw [opened, closed] at same
        have opens : d.isOpening := (List.mem_filter.1 (opened ▸ List.mem_cons_self)).2
        have closes : d'.isClosing := (List.mem_filter.1 (closed ▸ List.mem_cons_self)).2
        obtain ⟨rfl, -⟩ := List.cons.inj same
        cases d <;> contradiction
  · rintro (none | none) <;> simp [none]

end Entry

/-! ## Styles -/

namespace Style

/-- The closings at an anchor stand in front of the openings, whatever commands
made the style. -/
theorem unwinds_entry? (commands : List Command) (scope : Scope) (anchor : Anchor) :
    ∀ e ∈ entry? (runAll {} commands) scope anchor, e.Unwinds :=
  forall_entry?_runAll (P := Entry.Unwinds) rfl (fun _ d unwinds => Entry.unwinds_add unwinds d)
    (fun _ _ unwinds => unwinds) commands scope anchor

/-- The general entry at an anchor. -/
def generalAt (s : Style) (anchor : Anchor) : Entry := (s.entry? none anchor).getD {}

theorem unwinds_generalAt (commands : List Command) (anchor : Anchor) :
    ((runAll {} commands).generalAt anchor).Unwinds := by
  unfold generalAt
  cases found : entry? (runAll {} commands) none anchor with
  | none => rfl
  | some e => exact unwinds_entry? commands none anchor e found

/-- The brackets at an anchor where a rule has no bracket of its own are the general
ones.  If the rule has an entry there, the openings come in front of the closings,
which is another order exactly where there are both. -/
theorem brackets_entryAt (commands : List Command) (rule : String) (anchor : Anchor)
    (spaced : ∀ own ∈ entry? (runAll {} commands) (some rule) anchor, ∀ d ∈ own.directives, d.isSpacing) :
    let s := runAll {} commands
    let general := s.generalAt anchor
    let both := (s.entryAt rule anchor).brackets
    general.brackets = general.closings ++ general.openings ∧
      (s.entry? (some rule) anchor = none → both = general.brackets) ∧
      (s.entry? (some rule) anchor ≠ none → both = general.openings ++ general.closings) ∧
      (both = general.brackets ↔
        s.entry? (some rule) anchor = none ∨ general.openings = [] ∨ general.closings = []) ∧
      (both = general.brackets → ∀ names, Directive.openAfter? names (s.entryAt rule anchor).directives
        = Directive.openAfter? names general.directives) := by
  have unwinds := unwinds_generalAt commands anchor
  generalize runAll {} commands = s at *
  have alone : s.entry? (some rule) anchor = none → s.entryAt rule anchor = s.generalAt anchor := by
    intro none
    unfold entryAt generalAt
    rw [none]
    cases s.entry? .none anchor <;> rfl
  have joined : s.entry? (some rule) anchor ≠ none →
      (s.entryAt rule anchor).brackets
        = (s.generalAt anchor).openings ++ (s.generalAt anchor).closings := by
    intro some
    obtain ⟨own, found⟩ := Option.ne_none_iff_exists'.1 some
    have within : (own.within {}).brackets = [] := Entry.brackets_within (spaced own found) {}
    unfold entryAt generalAt
    rw [found]
    cases s.entry? none anchor with
    | none => simpa [Entry.within, Entry.brackets, Entry.openings, Entry.closings] using within
    | some general => exact Entry.brackets_within (spaced own found) general
  refine ⟨unwinds, fun none => by rw [alone none], joined, ?_, fun same names => ?_⟩
  · by_cases none : s.entry? (some rule) anchor = none
    · simp [none, alone none]
    · simp only [joined none, none, false_or]
      exact Entry.openings_append_closings_eq unwinds
  · rw [← Directive.openAfter?_filter, ← Directive.openAfter?_filter names (s.generalAt anchor).directives]
    exact congrArg _ same

/-- Two ranges begin at one anchor, where a rule asks for a blank. -/
theorem brackets_entryAt_beginnings :
    let s := runAll {} [.direct none ⟨.before, .label "x"⟩ (.opening .group),
      .direct none ⟨.before, .label "x"⟩ (.opening (.indent none)),
      .direct (some "r") ⟨.before, .label "x"⟩ (.spacing .space)]
    (∀ own ∈ s.entry? (some "r") ⟨.before, .label "x"⟩, ∀ d ∈ own.directives, d.isSpacing) ∧
      (s.entryAt "r" ⟨.before, .label "x"⟩).brackets = (s.generalAt ⟨.before, .label "x"⟩).brackets := by
  intro s
  have spaced : ∀ own ∈ s.entry? (some "r") ⟨.before, .label "x"⟩, ∀ d ∈ own.directives, d.isSpacing := by
    rintro own found d member
    obtain rfl : own = { directives := [.spacing .space] } := (Option.some.inj found).symm
    obtain rfl := List.mem_singleton.1 member
    rfl
  exact ⟨spaced, (brackets_entryAt _ "r" ⟨.before, .label "x"⟩ spaced).2.2.2.1.2 (.inr (.inr rfl))⟩

/-- Where one range ends and another begins, a rule that leaves the item out turns
the order of the general brackets round, and they do not nest any more. -/
theorem brackets_entryAt_adjoining :
    let s := runAll {} [.direct none ⟨.before, .label "x"⟩ (.closing .group),
      .direct none ⟨.before, .label "x"⟩ (.opening (.indent none)),
      .treat (some "r") ⟨.before, .label "x"⟩ .omitted]
    let general := s.generalAt ⟨.before, .label "x"⟩
    let both := s.entryAt "r" ⟨.before, .label "x"⟩
    (∀ own ∈ s.entry? (some "r") ⟨.before, .label "x"⟩, own.directives = []) ∧
      both.brackets ≠ general.brackets ∧
      Directive.openAfter? [.group] general.directives = some [.indent] ∧
      Directive.openAfter? [.group] both.directives = none := by
  refine ⟨?_, ?_, rfl, rfl⟩
  · intro own found
    obtain rfl := Option.some.inj found
    rfl
  · intro same
    exact nomatch (List.cons.inj same).1

end Style

end Reprint
