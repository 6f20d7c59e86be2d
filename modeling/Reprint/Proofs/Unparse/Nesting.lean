import Reprint.Proofs.Style.Nesting
import Reprint.Proofs.Unparse.Plain

/-!
# Brackets that no child is meant for

Items are tried that the tree has not got, and the directives in front of an item
are carried out before its child is looked at.  Brackets that are opened in vain go
away with the attempt.  So brackets at labels and literals that do not occur in a
tree never fail to nest (`raw_ne_nesting`), as long as nothing is closed in front
of an item that was not opened there.
-/

namespace Reprint

/-! ## Anchors -/

/-- Whether a child is one of those that a selector is meant for. -/
def Selector.Picks (source : String) : Selector → Child → Prop
  | .label name, c => c.label = some name
  | .literal text, .token _ span => span.slice? source = some text
  | .literal _, _ | .ruleStart, _ | .ruleEnd, _ => False

namespace Style

variable {s : Style}

/-- A style opens or closes a bracket at an anchor, for all rules or for one. -/
def BracketsAt (s : Style) (anchor : Anchor) : Prop :=
  ∃ scope, ∃ e ∈ s.entry? scope anchor, e.brackets ≠ []

theorem isSpacing_of_mem_entryAt {anchor : Anchor} (without : ¬ s.BracketsAt anchor) {rule : String}
    {d : Directive} (member : d ∈ (s.entryAt rule anchor).directives) : d.isSpacing := by
  obtain ⟨scope, e, found, inside⟩ := exists_of_mem_entryAt member
  have none : e.brackets = [] := by
    by_contra some
    exact without ⟨scope, e, found, some⟩
  simpa using List.filter_eq_nil_iff.1 none d inside

/-- The directives in front of an item of a rule. -/
def directivesBefore (s : Style) (rule : String) (i : Item Grammar.Term) : List Directive :=
  (Unparse.selectors i.label i.term.literal?).flatMap fun selector =>
    (s.entryAt rule ⟨.before, selector⟩).directives

end Style

namespace Unparse

/-! ## Directives -/

/-- Directives that nest are carried out and leave their own brackets open. -/
theorem exists_directAll (side : Side) (spaced : Bool) {ds : List Directive} {a : Assembly}
    {names : List BracketName}
    (nests : Directive.openAfter? (a.brackets.map Bracket.name) ds = some names) :
    ∃ b, Context.directAll side spaced ds a = .fits b ∧ b.brackets.map Bracket.name = names := by
  induction ds generalizing a with
  | nil =>
    rw [Directive.openAfter?_nil] at nests
    exact ⟨a, rfl, Option.some.inj nests⟩
  | cons d ds ih =>
    rw [directAll_cons]
    cases d with
    | spacing d =>
      rw [Directive.openAfter?_spacing] at nests
      cases spaced with
      | false => exact ih nests
      | true =>
        refine ih (a := a.addControl _) ?_
        rwa [Assembly.addControl, Assembly.brackets_push]
    | opening b =>
      rw [Directive.openAfter?_opening] at nests
      refine ih (a := a.openBracket b) ?_
      rwa [Assembly.brackets_openBracket]
    | closing name =>
      cases opened : a.brackets with
      | nil =>
        rw [opened] at nests
        cases nests
      | cons bracket outer =>
        rw [opened, List.map_cons, Directive.openAfter?] at nests
        split_ifs at nests with same
        obtain ⟨b, closed, left⟩ := Assembly.exists_closeBracket opened
        rw [same] at closed
        simp only [Context.direct, closed, Walked.ofExcept, Walked.andThen]
        exact ih (left ▸ nests)

/-- Spacing leaves no bracket open. -/
theorem closed_directAll (side : Side) (spaced : Bool) {ds : List Directive}
    (spacing : ∀ d ∈ ds, d.isSpacing) {a : Assembly} (closed : a.frames = []) :
    (Context.directAll side spaced ds a).Holds False fun b => b.frames = [] := by
  have none : a.brackets.map Bracket.name = [] := by rw [Assembly.brackets_eq_nil.2 closed]; rfl
  have nests : Directive.openAfter? (a.brackets.map Bracket.name) ds = some [] := by
    rw [none, Directive.openAfter?_of_spacing [] spacing]
  obtain ⟨b, fits, left⟩ := exists_directAll side spaced nests
  rw [fits]
  exact Assembly.brackets_eq_nil.1 (List.map_eq_nil_iff.1 left)

/-! ## Children that are left -/

section Left

variable {ctx : Context}

theorem suffix_slot (sep : Separator) (p : Progress) :
    (ctx.slot sep p).Holds True fun q => q.1 <:+ p.1 := by
  obtain ⟨vs, a⟩ := p
  cases slotCase ctx a.lastWasTrivia sep vs with
  | tight => exact List.suffix_refl vs
  | blank inTrivia some blank =>
    rw [slot_of_blank inTrivia some blank]
    exact List.suffix_cons _ _
  | noBlank inTrivia free =>
    rw [slot_of_noBlank inTrivia free]
    exact List.suffix_refl vs
  | lackingBlank inTrivia free =>
    rw [slot_of_lackingBlank inTrivia free]
    trivial
  | kept outside some same wanted =>
    rw [slot_of_kept outside some same wanted]
    refine Walked.holds_andThen fun inner _ => ?_
    exact (holds_ofExcept fun _ _ => List.suffix_cons _ _).map fun _ held => held
  | dropped outside some same unwanted =>
    rw [slot_of_dropped outside some same unwanted]
    exact List.suffix_cons _ _
  | unnamed outside some same unnamed =>
    rw [slot_of_unnamed outside some same unnamed]
    trivial
  | noTrivia outside some free =>
    rw [slot_of_noTrivia outside some free]
    exact List.suffix_refl vs

theorem suffix_leaf (label : Option String) (t : Grammar.Term) (p : Progress) :
    (ctx.leaf label t p).Holds True fun q => q.1 <:+ p.1 := by
  obtain ⟨vs, a⟩ := p
  cases leafCase ctx label t vs with
  | missing other =>
    rw [leaf_of_missing other]
    trivial
  | token same found read =>
    rw [leaf_of_token same found read]
    exact List.suffix_cons _ _
  | node same =>
    rw [leaf_of_node same]
    refine Walked.holds_andThen fun inner _ => ?_
    exact (holds_ofExcept fun _ _ => List.suffix_cons _ _).map fun _ held => held

/-- An item that an anchor is meant for does not fit where no child is. -/
theorem leaf_eq_misfit {label : Option String} {t : Grammar.Term} {selector : Selector}
    (reaches : selector ∈ selectors label t.literal?) {p : Progress}
    (unpicked : ∀ v ∈ p.1, ¬ selector.Picks ctx.source v.child) : ctx.leaf label t p = .misfit := by
  refine leaf_of_missing fun v next meets => unpicked v (List.mem_of_mem_head? next) ?_
  rcases List.mem_append.1 reaches with own | own
  · obtain ⟨name, rfl, rfl⟩ := Option.map_eq_some_iff.1 (Option.mem_toList.1 own)
    generalize v.child = c at meets
    cases meets <;> rfl
  · obtain ⟨text, literal, rfl⟩ := Option.map_eq_some_iff.1 (Option.mem_toList.1 own)
    generalize v.child = c at meets
    cases meets with
    | rule | pattern => cases literal
    | literal found =>
      obtain rfl := Option.some.inj literal
      exact found

/-! ## Attempts -/

/-- No bracket is open, and no child that is left is one that brackets of the style
are meant for. -/
def Quiet (ctx : Context) (p : Progress) : Prop :=
  Closed p ∧ ∀ v ∈ p.1, ∀ anchor, ctx.style.BracketsAt anchor →
    ¬ anchor.selector.Picks ctx.source v.child

/-- Groups have no label, and the directives in front of an item close only what
they opened. -/
def Nests (ctx : Context) (i : Item Grammar.Term) : Prop :=
  (∀ ps, i.term = .group ps → i.label = none) ∧
    (Directive.openAfter? [] (ctx.style.directivesBefore ctx.rule i)).isSome

theorem quiet_of_suffix {p : Progress} {x : Walked Progress} (quiet : Quiet ctx p)
    (closed : x.Holds False Closed) (left : x.Holds True fun q => q.1 <:+ p.1) :
    x.Holds False (Quiet ctx) := by
  refine (closed.and left).mono ?_
  rintro q ⟨closed, left⟩
  exact ⟨closed, fun v member => quiet.2 v (left.subset member)⟩

theorem Quiet.of_frames {rest : List Visit} {a b : Assembly} (quiet : Quiet ctx (rest, a))
    (closed : b.frames = []) : Quiet ctx (rest, b) :=
  ⟨⟨closed, quiet.1.2⟩, quiet.2⟩

/-- An item that brackets are meant for is not there. -/
theorem term_eq_misfit {i : Item Grammar.Term} (nests : Nests ctx i) {selector : Selector}
    (reaches : selector ∈ selectors i.label i.term.literal?) {side : Side}
    (bracketed : ctx.style.BracketsAt ⟨side, selector⟩) {rest : List Visit} {a : Assembly}
    (quiet : Quiet ctx (rest, a)) (b : Assembly) :
    term ctx i.label i.term (rest, b) = .misfit := by
  have missing : ctx.leaf i.label i.term (rest, b) = .misfit :=
    leaf_eq_misfit reaches fun v member => quiet.2 v member _ bracketed
  cases same : i.term with
  | rule | literal | pattern =>
    rw [term, ← same]
    exact missing
  | group ps =>
    rw [nests.1 ps same, same] at reaches
    cases reaches

/-- What is tried in vain leaves nothing behind, whatever becomes of the item. -/
theorem emit_eq_misfit {label literal : Option String} {content : Assembly → Walked Progress}
    {a : Assembly} (before : ∀ spaced, ∃ b,
      Context.directAll .before spaced (ctx.itemDirectives label literal).1 a = .fits b)
    (misfit : ∀ a, content a = .misfit) : ctx.emit label literal content a = .misfit := by
  have treated : ∀ t b, Context.treated t content b = .misfit := by
    intro t b
    cases t <;> simp only [Context.treated, misfit] <;> rfl
  choose b fits using before
  unfold Context.emit
  split_ifs
  · exact misfit a
  · simp only [fits, Walked.andThen, treated]

theorem quiet_treated {content : Assembly → Walked Progress}
    (step : ∀ a, a.frames = [] → (content a).Holds False (Quiet ctx)) (t : Treatment) {a : Assembly}
    (closed : a.frames = []) : (Context.treated t content a).Holds False (Quiet ctx) := by
  cases t with
  | normal => exact step a closed
  | omitted => exact (step {} rfl).map fun _ quiet => quiet.of_frames closed
  | replaced d => exact (step {} rfl).map fun _ quiet => quiet.of_frames (Assembly.frames_push.2 closed)

/-- Around an item that no brackets are meant for there is nothing but spacing. -/
theorem quiet_emit {label literal : Option String} {content : Assembly → Walked Progress}
    (without : ∀ selector ∈ selectors label literal, ∀ side, ¬ ctx.style.BracketsAt ⟨side, selector⟩)
    (step : ∀ a, a.frames = [] → (content a).Holds False (Quiet ctx)) {a : Assembly}
    (closed : a.frames = []) : (ctx.emit label literal content a).Holds False (Quiet ctx) := by
  unfold Context.emit
  split_ifs
  · exact step a closed
  · refine (closed_directAll .before _ ?_ closed).andThen fun a closed =>
      (quiet_treated step _ closed).andThen ?_
    · intro d member
      obtain ⟨selector, reaches, inside⟩ := exists_of_mem_before member
      exact Style.isSpacing_of_mem_entryAt (without selector reaches .before) inside
    · rintro ⟨rest, a⟩ quiet
      refine (closed_directAll .after _ ?_ quiet.1.1).map fun b closed => quiet.of_frames closed
      intro d member
      obtain ⟨selector, reaches, inside⟩ := exists_of_mem_after member
      exact Style.isSpacing_of_mem_entryAt (without selector reaches .after) inside

/-- No step of the walk opens a bracket for good. -/
theorem steady_quiet (ends : ∀ anchor, ctx.style.BracketsAt anchor →
      anchor.selector ≠ .ruleStart ∧ anchor.selector ≠ .ruleEnd) :
    Steady ctx (fun _ => True) (Nests ctx) False (Quiet ctx) where
  slot sep _ p quiet := quiet_of_suffix quiet (closed_slot ctx sep quiet.1) (suffix_slot sep p)
  leaf i _ p quiet := quiet_of_suffix quiet (closed_leaf ctx i.label i.term quiet.1) (suffix_leaf _ _ p)
  emit i nests step rest a quiet := by
    by_cases bracketed : ∃ selector ∈ selectors i.label i.term.literal?, ∃ side,
        ctx.style.BracketsAt ⟨side, selector⟩
    · obtain ⟨selector, reaches, side, bracketed⟩ := bracketed
      have none : a.brackets = [] := Assembly.brackets_eq_nil.2 quiet.1.1
      obtain ⟨names, opened⟩ := Option.isSome_iff_exists.1 nests.2
      rw [emit_eq_misfit ?_ (term_eq_misfit nests reaches bracketed quiet)]
      · trivial
      · intro spaced
        obtain ⟨b, fits, -⟩ := exists_directAll .before spaced (a := a) (by rw [none]; exact opened)
        rw [itemDirectives_eq]
        exact ⟨b, fits⟩
    · refine quiet_emit ?_ ?_ quiet.1.1
      · exact fun selector reaches side here => bracketed ⟨selector, reaches, side, here⟩
      · exact fun a closed => step (rest, a) (quiet.of_frames closed)
  boundary selector atEnd rest a quiet := by
    have spacing : ∀ side, ∀ d ∈ ctx.directives side selector, d.isSpacing := by
      intro side d member
      refine Style.isSpacing_of_mem_entryAt (fun bracketed => ?_) member
      exact atEnd.elim (ends _ bracketed).1 (ends _ bracketed).2
    unfold Context.boundary
    split_ifs
    · exact quiet
    · refine (closed_directAll .before true (spacing .before) quiet.1.1).andThen fun b closed => ?_
      exact (closed_directAll .after true (spacing .after) closed).mono fun _ closed =>
        quiet.of_frames closed

end Left

/-! ## Trees -/

/-- A tree that is retraced without leaving a bracket open is not refused for its
brackets. -/
theorem raw_ne_nesting_of_holds {u : Unparser} {tree : Tree} {source : String}
    (closed : (Walk.node ⟨u.grammar, u.style, source⟩ tree false).Holds False fun a => a.frames = [])
    (rule : String) (e : NestingError) : u.raw rule tree source ≠ .error (.nesting e) := by
  by_cases known : u.grammar.ruleId? rule = some tree.rule
  · rw [raw_of_known known]
    cases walked : Walk.node ⟨u.grammar, u.style, source⟩ tree false with
    | misfit | astray => nofun
    | broken =>
      rw [walked] at closed
      exact closed.elim
    | fits a =>
      rw [walked] at closed
      have finished : a.finish = .ok _ := Assembly.finish_eq_ok.2 ⟨closed, rfl⟩
      simp only [finished, Except.mapError]
      nofun
  · rw [raw_of_unknown known]
    cases u.grammar.ruleId? rule <;> nofun

/-- Brackets at labels and literals that no child of a tree has do not fail to nest,
if those in front of an item close only what they opened. -/
theorem raw_ne_nesting {g : Grammar} {s : Style} {tree : Tree} {source : String}
    (unsuppressed : g.Unsuppressed)
    (unlabelled : ∀ r ∈ g.rules, Throughout
      (fun p => ∀ i ∈ p.items, ∀ ps, i.term = .group ps → i.label = none) r.productions)
    (ends : ∀ anchor, s.BracketsAt anchor →
      anchor.selector ≠ .ruleStart ∧ anchor.selector ≠ .ruleEnd)
    (absent : ∀ c ∈ tree.parts, ∀ anchor, s.BracketsAt anchor → ¬ anchor.selector.Picks source c)
    (before : ∀ r ∈ g.rules, Throughout
      (fun p => ∀ i ∈ p.items, (Directive.openAfter? [] (s.directivesBefore r.name i)).isSome)
      r.productions)
    (rule : String) (e : NestingError) :
    Unparser.raw ⟨g, s⟩ rule tree source ≠ .error (.nesting e) := by
  refine raw_ne_nesting_of_holds (closed_node_of_rule ?_ tree absent false) rule e
  intro id inTrivia children unpicked closed
  unfold Walk.rule
  split
  · trivial
  · next r found =>
    have member : r ∈ g.rules := List.mem_of_getElem? found
    have shaped : Throughout (Shaped (fun _ => True) (Nests (Walk.context ⟨g, s, source⟩ r.name
        (inTrivia || g.isTrivia id)))) r.productions := by
      refine fun p inside => ⟨trivial, fun i item => ⟨unsuppressed r member p inside i item, trivial, ?_⟩⟩
      exact ⟨unlabelled r member p inside i item, before r member p inside i item⟩
    refine ((steady_quiet ends).alternatives shaped ⟨closed, ?_⟩).mono fun _ quiet => quiet.1.1
    rw [visits_eq_map]
    exact List.forall_mem_map.2 fun c member => by rw [child_visit]; exact unpicked c member

end Unparse

/-! ## A letter that may stand in parentheses -/

section Letter

open Unparse

/-- A letter that may stand in parentheses. -/
def letter : Grammar where
  rules := [⟨"letter", [⟨[
    { label := some "open", term := .literal "(", quantifier := .optional },
    { term := .literal "x" },
    { label := some "close", term := .literal ")", quantifier := .optional }], .none⟩]⟩]
  trivia := none

/-- The letter alone. -/
def bareLetter : Tree := ⟨0, ⟨0, 1⟩, [.token none ⟨0, 1⟩]⟩

/-- An indentation from the one side of the first parenthesis to the other side of
the last one. -/
def nestParentheses (side : Side) : Style :=
  .runAll {} [.direct none ⟨side, .label "open"⟩ (.opening (.indent none)),
    .direct none ⟨side.other, .label "close"⟩ (.closing .indent)]

/-- The brackets are at labels, and no child has them. -/
theorem bare_bracketsAt {side : Side} {anchor : Anchor}
    (bracketed : (nestParentheses side).BracketsAt anchor) :
    (anchor.selector ≠ .ruleStart ∧ anchor.selector ≠ .ruleEnd) ∧
      ∀ c ∈ bareLetter.parts, ¬ anchor.selector.Picks "x" c := by
  have place : anchor = ⟨side, .label "open"⟩ ∨ anchor = ⟨side.other, .label "close"⟩ := by
    obtain ⟨scope, e, found, -⟩ := bracketed
    by_contra other
    rw [not_or] at other
    unfold nestParentheses Style.runAll at found
    rw [List.foldl_cons, List.foldl_cons, List.foldl_nil, Style.entry?_direct,
      if_neg fun here => other.2 here.2, Style.entry?_direct, if_neg fun here => other.1 here.2] at found
    cases scope <;> cases found
  have only : ∀ c ∈ bareLetter.parts, c.label = none := by
    intro c member
    obtain rfl := List.mem_singleton.1 member
    rfl
  obtain rfl | rfl := place
  · exact ⟨⟨nofun, nofun⟩, fun c member picks => nomatch (only c member).symm.trans picks⟩
  · exact ⟨⟨nofun, nofun⟩, fun c member picks => nomatch (only c member).symm.trans picks⟩

theorem unsuppressed_letter : letter.Unsuppressed := by
  unfold Grammar.Unsuppressed Throughout
  decide

theorem unlabelled_letter : ∀ r ∈ letter.rules, Throughout
    (fun p => ∀ i ∈ p.items, ∀ ps, i.term = .group ps → i.label = none) r.productions := by
  intro r member p inside i item ps same
  obtain rfl := List.mem_singleton.1 member
  obtain rfl := List.mem_singleton.1 inside
  simp at item
  obtain rfl | rfl | rfl := item <;> cases same

end Letter

/-- The parentheses with what is between them are indented; there are none. -/
theorem raw_ne_nesting_bareLetter :
    letter.Unsuppressed ∧
      (∀ r ∈ letter.rules, Throughout
        (fun p => ∀ i ∈ p.items, ∀ ps, i.term = .group ps → i.label = none) r.productions) ∧
      (∀ anchor, (nestParentheses .before).BracketsAt anchor →
        (anchor.selector ≠ .ruleStart ∧ anchor.selector ≠ .ruleEnd) ∧
          ∀ c ∈ bareLetter.parts, ¬ anchor.selector.Picks "x" c) ∧
      (∀ r ∈ letter.rules, Throughout (fun p => ∀ i ∈ p.items,
        (Directive.openAfter? [] ((nestParentheses .before).directivesBefore r.name i)).isSome)
        r.productions) ∧
      ∀ e, Unparser.raw ⟨letter, nestParentheses .before⟩ "letter" bareLetter "x"
        ≠ .error (.nesting e) := by
  have before : ∀ r ∈ letter.rules, Throughout (fun p => ∀ i ∈ p.items,
      (Directive.openAfter? [] ((nestParentheses .before).directivesBefore r.name i)).isSome)
      r.productions := by
    unfold Throughout
    decide
  refine ⟨unsuppressed_letter, unlabelled_letter, fun _ => bare_bracketsAt, before, ?_⟩
  exact Unparse.raw_ne_nesting unsuppressed_letter unlabelled_letter
    (fun _ bracketed => (bare_bracketsAt bracketed).1)
    (fun c member _ bracketed => (bare_bracketsAt bracketed).2 c member) before "letter"

/-- What is between the parentheses is indented; there are none, but the bracket
that closes in front of the second one is closed before it is looked for. -/
theorem raw_nesting_bareLetter :
    letter.Unsuppressed ∧
      (∀ r ∈ letter.rules, Throughout
        (fun p => ∀ i ∈ p.items, ∀ ps, i.term = .group ps → i.label = none) r.productions) ∧
      (∀ anchor, (nestParentheses .after).BracketsAt anchor →
        (anchor.selector ≠ .ruleStart ∧ anchor.selector ≠ .ruleEnd) ∧
          ∀ c ∈ bareLetter.parts, ¬ anchor.selector.Picks "x" c) ∧
      Unparser.raw ⟨letter, nestParentheses .after⟩ "letter" bareLetter "x"
        = .error (.nesting (.mismatched .indent none)) :=
  ⟨unsuppressed_letter, unlabelled_letter, fun _ => bare_bracketsAt, by with_unfolding_all rfl⟩

end Reprint
