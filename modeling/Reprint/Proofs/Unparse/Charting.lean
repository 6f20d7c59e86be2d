import Reprint.Proofs.Parse.Derivation
import Reprint.Proofs.Unparse.Course
import Reprint.Unparse

/-!
# Every tree has a course

The walk goes through every tree on a course, whatever the grammar says, and the course
leaves what the walk is defined to leave.  This is shown for the parts of a production by
the terms of its items (`Charts`), for a repetition by the children that are left, and for
nodes by the tree (`charted`).

So unparsing ends for every tree (`course_of_raw`).
-/

namespace Reprint.Unparse

open Matching (Part)

/-! ## Every stretch has a course -/

/-- The walk through a part. -/
def follow (ctx : Context) : Part → Progress → Walked Progress
  | .slot sep, p => ctx.slot sep p
  | .term label t, p => term ctx label t p
  | .once i, p => once ctx i p
  | .item i, p => item ctx i p
  | .repeats i count, p =>
    (repeated (once ctx i) p).andThen fun (n, q) => if count ≤ n then .fits q else .misfit
  | .items is, p => items ctx is p
  | .production r, p => production ctx r p
  | .productions rs, p => productions ctx rs p

theorem fails_misfit {α : Type} : (Walked.misfit : Walked α).Fails := nofun

theorem fails_broken {α : Type} (e : NestingError) : (Walked.broken e : Walked α).Fails := nofun

theorem fails_astray {α : Type} (id : Nat) : (Walked.astray id : Walked α).Fails := nofun

/-- The children that are left, with how their own trees are retraced, and the document. -/
def Walk.progress (w : Walk) (r : List Child × Assembly) : Progress := (w.visits r.1, r.2)

/-- The tree of a child has a course, which leaves what the walk does. -/
def Charted (w : Walk) (c : Child) : Prop :=
  ∀ body, c.body? = some body → ∀ inTrivia, ∃ log,
    Course w (.node body inTrivia) log ((w.node body inTrivia).map fun a => ([], a))

/-- A part has a course, which leaves what the walk does, if the children have. -/
def Charts (w : Walk) (ctx : Context) (part : Part) : Prop :=
  ∀ here a, (∀ c ∈ here, Charted w c) → ∃ log out, Course w (.part ctx part here a) log out ∧
    follow ctx part (w.visits here, a) = out.map w.progress

section Charts

variable {w : Walk} {ctx : Context}

theorem charts_slot (sep : Separator) : Charts w ctx (.slot sep) := by
  intro here a charted
  rw [follow]
  generalize walked : w.visits here = vs
  cases slotCase ctx a.lastWasTrivia sep vs with
  | tight => exact walked ▸ ⟨_, _, .tight, rfl⟩
  | blank inTrivia some blank =>
    rw [slot_of_blank inTrivia some blank]
    obtain ⟨c, rest, rfl, rfl, rfl⟩ := visits_eq_cons.1 walked
    exact ⟨_, _, .blanks inTrivia some (child_visit w c ▸ blank), rfl⟩
  | noBlank inTrivia free =>
    rw [slot_of_noBlank inTrivia free]
    subst walked
    exact ⟨_, _, .noBlanks inTrivia (forall_head_visits.1 free), rfl⟩
  | lackingBlank inTrivia free =>
    rw [slot_of_lackingBlank inTrivia free]
    subst walked
    exact ⟨_, _, .lackingBlanks inTrivia (forall_head_visits.1 free), rfl⟩
  | kept outside some same wanted =>
    rw [slot_of_kept outside some same wanted]
    obtain ⟨c, rest, rfl, rfl, rfl⟩ := visits_eq_cons.1 walked
    obtain rfl := (child_visit w c).symm.trans same
    obtain ⟨log, course⟩ := charted _ List.mem_cons_self _ rfl true
    refine ⟨_, _, .kept outside some wanted course, ?_⟩
    change (w.node _ true).andThen _ = _
    cases w.node _ true with
    | fits inner =>
      simp only [Walked.map, Walked.andThen]
      cases inner.finish <;> rfl
    | misfit | broken | astray => rfl
  | dropped outside some same unwanted =>
    rw [slot_of_dropped outside some same unwanted]
    obtain ⟨c, rest, rfl, rfl, rfl⟩ := visits_eq_cons.1 walked
    obtain rfl := (child_visit w c).symm.trans same
    exact ⟨_, _, .dropped outside some unwanted, rfl⟩
  | unnamed outside some same unnamed =>
    rw [slot_of_unnamed outside some same unnamed]
    obtain ⟨c, rest, rfl, rfl, rfl⟩ := visits_eq_cons.1 walked
    obtain rfl := (child_visit w c).symm.trans same
    exact ⟨_, _, .unnamed outside some unnamed, rfl⟩
  | noTrivia outside some free =>
    rw [slot_of_noTrivia outside some free]
    subst walked
    have free : ∀ c ∈ here.head?, c.isTrivia = false := forall_head_visits.1 free
    exact ⟨_, _, .noTrivia outside some fun c next => Child.trivia?_eq_none.2 (free c next), rfl⟩

theorem charts_leaf (label : Option String) {t : Grammar.Term} (single : ∀ ps, t ≠ .group ps)
    (here : List Child) (a : Assembly) (charted : ∀ c ∈ here, Charted w c) :
    ∃ log out, Course w (.part ctx (.term label t) here a) log out ∧
      ctx.leaf label t (w.visits here, a) = out.map w.progress := by
  generalize walked : w.visits here = vs
  cases leafCase ctx label t vs with
  | missing other =>
    rw [leaf_of_missing other]
    subst walked
    exact ⟨_, _, .missing single (forall_head_visits.1 other), rfl⟩
  | token same found read =>
    rw [leaf_of_token same found read]
    obtain ⟨c, rest, rfl, rfl, rfl⟩ := visits_eq_cons.1 walked
    obtain rfl := (child_visit w c).symm.trans same
    cases read with
    | literal => exact ⟨_, _, .literal found, rfl⟩
    | pattern all => exact ⟨_, _, .pattern found all, rfl⟩
  | node same =>
    rw [leaf_of_node same]
    obtain ⟨c, rest, rfl, rfl, rfl⟩ := visits_eq_cons.1 walked
    obtain rfl := (child_visit w c).symm.trans same
    obtain ⟨log, course⟩ := charted _ List.mem_cons_self _ rfl ctx.inTrivia
    refine ⟨_, _, .rule rfl course, ?_⟩
    change (w.node _ ctx.inTrivia).andThen _ = _
    cases w.node _ ctx.inTrivia with
    | fits inner =>
      simp only [Walked.map, Walked.andThen]
      cases a.merge inner <;> rfl
    | misfit | broken | astray => rfl

theorem charts_once {i : Item Grammar.Term} (charts : Charts w ctx (.term i.label i.term)) :
    Charts w ctx (.once i) := by
  intro here a charted
  obtain ⟨log, out, course, same⟩ := charts_slot i.slot here a charted
  rw [follow] at same
  rw [follow, once, same]
  cases out with
  | misfit => exact ⟨_, _, .noSlot course fails_misfit, rfl⟩
  | broken e => exact ⟨_, _, .noSlot course (fails_broken e), rfl⟩
  | astray id => exact ⟨_, _, .noSlot course (fails_astray id), rfl⟩
  | fits r =>
    obtain ⟨rest, b⟩ := r
    have inner : ∀ c ∈ rest, Charted w c := fun c member => charted c (course.passes.subset member)
    change ∃ log out, _ ∧ ctx.emit _ _ _ b = _
    rw [Context.emit_eq]
    cases opened : ctx.opened i.label i.term.literal? b with
    | misfit =>
      refine ⟨_, _, .unopened course (opened ▸ fails_misfit), ?_⟩
      rw [opened]
      rfl
    | broken e =>
      refine ⟨_, _, .unopened course (opened ▸ fails_broken e), ?_⟩
      rw [opened]
      rfl
    | astray id =>
      refine ⟨_, _, .unopened course (opened ▸ fails_astray id), ?_⟩
      rw [opened]
      rfl
    | fits d =>
      obtain ⟨more, out, further, same⟩ := charts rest (ctx.inside i.label i.term.literal? d) inner
      rw [follow] at same
      refine ⟨_, _, .once course opened further, ?_⟩
      change (term ctx i.label i.term (w.visits rest, ctx.inside i.label i.term.literal? d)).andThen _ = _
      rw [same]
      cases out with
      | misfit | broken | astray => rfl
      | fits r =>
        simp only [Walked.map, Walked.andThen, Walk.progress]
        cases ctx.closed i.label i.term.literal? d r.2 <;> rfl

/-- As many occurrences as there are leave what an item does that repeats, unless there have
to be more. -/
theorem charts_repeated {i : Item Grammar.Term} (shown : i.suppressed = false)
    (charts : ∀ quantifier, Charts w ctx (.once { i with quantifier })) (here : List Child) (a : Assembly)
    (charted : ∀ c ∈ here, Charted w c) {quantifier : Quantifier} (repeats : quantifier.repeats = true) :
    ∃ log out, Course w (.part ctx (.item { i with quantifier }) here a) log out ∧
      ((repeated (once ctx i) (w.visits here, a)).andThen fun r =>
        if quantifier.least ≤ r.1 then .fits r.2 else .misfit) = out.map w.progress := by
  induction size : here.length using Nat.strongRecOn generalizing here a quantifier with
  | ind n ih =>
    subst size
    have least : quantifier.least ≤ 1 := by cases quantifier <;> decide
    obtain ⟨log, out, course, same⟩ := charts quantifier here a charted
    rw [follow] at same
    change once ctx i (w.visits here, a) = _ at same
    rw [repeated, same]
    cases out with
    | misfit =>
      refine ⟨_, _, .stop shown repeats course, ?_⟩
      simp only [Walked.map, Walked.andThen, Nat.le_zero]
      split_ifs <;> rfl
    | broken e => exact ⟨_, _, .torn shown repeats course (fails_broken e) (by rintro ⟨⟩), rfl⟩
    | astray id => exact ⟨_, _, .torn shown repeats course (fails_astray id) (by rintro ⟨⟩), rfl⟩
    | fits r =>
      obtain ⟨rest, b⟩ := r
      have inner : ∀ c ∈ rest, Charted w c := fun c member => charted c (course.passes.subset member)
      simp only [Walked.map, Walked.andThen, Walk.progress, length_visits]
      split_ifs with fewer
      · have many : Quantifier.many.repeats = true := rfl
        obtain ⟨more, out, further, same⟩ := ih _ fewer rest b inner many rfl
        refine ⟨_, _, .more shown repeats course fewer further, ?_⟩
        simp only [Walked.map, Walked.andThen, Walk.progress] at same
        rw [← same]
        cases repeated (once ctx i) (w.visits rest, b) with
        | misfit | broken | astray => rfl
        | fits r =>
          obtain ⟨count, q⟩ := r
          have enough : Quantifier.many.least ≤ count := Nat.zero_le count
          simp only [if_pos enough, if_pos (show quantifier.least ≤ count + 1 by omega)]
      · refine ⟨_, _, .last shown repeats course fewer, ?_⟩
        simp only [if_pos least]

theorem charts_shown {i : Item Grammar.Term} (shown : i.suppressed = false)
    (charts : ∀ quantifier, Charts w ctx (.once { i with quantifier })) : Charts w ctx (.item i) := by
  intro here a charted
  obtain ⟨log, out, course, same⟩ := charts i.quantifier here a charted
  rw [follow] at same
  change once ctx i (w.visits here, a) = _ at same
  rw [follow, item_eq ctx shown]
  unfold quantified
  split
  · next one => exact ⟨_, _, .single shown one course, same⟩
  · next optional =>
    refine ⟨_, _, .optional shown optional course, ?_⟩
    rw [same]
    cases out <;> rfl
  all_goals
    next quantifier =>
    exact charts_repeated shown charts here a charted (by rw [quantifier]; rfl)

theorem charts_suppressed {i : Item Grammar.Term} (suppressed : i.suppressed = true) :
    Charts w ctx (.item i) := by
  intro here a _
  have regenerated : item ctx i (w.visits here, a)
      = times (ctx.suppressed i.slot i.label i.term) i.quantifier.least (w.visits here, a) := by
    obtain ⟨slot, label, t, quantifier, _⟩ := i
    rw [item]
    exact if_pos suppressed
  have most : i.quantifier.least = 0 ∨ i.quantifier.least = 1 := by
    cases i.quantifier <;> decide
  rw [follow, regenerated]
  rcases most with none | one
  · rw [none]
    exact ⟨_, _, .spared suppressed none, rfl⟩
  · refine ⟨_, _, .rebuilt suppressed one, ?_⟩
    rw [one, times, Context.suppressed_eq]
    cases ctx.rebuilt i a <;> rfl

theorem charts_items {is : List (Item Grammar.Term)} (charts : ∀ i ∈ is, Charts w ctx (.item i)) :
    Charts w ctx (.items is) := by
  induction is with
  | nil =>
    intro here a _
    exact ⟨_, _, .nil, by rw [follow, items]; rfl⟩
  | cons i is ih =>
    obtain ⟨first, others⟩ := List.forall_mem_cons.1 charts
    intro here a charted
    obtain ⟨log, out, course, same⟩ := first here a charted
    rw [follow] at same
    rw [follow, items, same]
    cases out with
    | misfit => exact ⟨_, _, .noItem course fails_misfit, rfl⟩
    | broken e => exact ⟨_, _, .noItem course (fails_broken e), rfl⟩
    | astray id => exact ⟨_, _, .noItem course (fails_astray id), rfl⟩
    | fits r =>
      have inner : ∀ c ∈ r.1, Charted w c := fun c member => charted c (course.passes.subset member)
      obtain ⟨more, out, further, same⟩ := ih others r.1 r.2 inner
      exact ⟨_, _, .cons course further, same⟩

theorem charts_production {p : Production Grammar.Term} (charts : ∀ i ∈ p.items, Charts w ctx (.item i)) :
    Charts w ctx (.production p) := by
  intro here a charted
  obtain ⟨is, trailing⟩ := p
  obtain ⟨log, out, course, same⟩ := charts_items charts here a charted
  rw [follow] at same
  dsimp only at same
  rw [follow, production, same]
  cases out with
  | misfit => exact ⟨_, _, .noItems course fails_misfit, rfl⟩
  | broken e => exact ⟨_, _, .noItems course (fails_broken e), rfl⟩
  | astray id => exact ⟨_, _, .noItems course (fails_astray id), rfl⟩
  | fits r =>
    have inner : ∀ c ∈ r.1, Charted w c := fun c member => charted c (course.passes.subset member)
    obtain ⟨more, out, further, same⟩ := charts_slot trailing r.1 r.2 inner
    exact ⟨_, _, .production course further, same⟩

theorem charts_productions {ps : List (Production Grammar.Term)}
    (charts : ∀ p ∈ ps, Charts w ctx (.production p)) : Charts w ctx (.productions ps) := by
  induction ps with
  | nil =>
    intro here a _
    exact ⟨_, _, .noProduction, by rw [follow, productions]; rfl⟩
  | cons p ps ih =>
    obtain ⟨first, others⟩ := List.forall_mem_cons.1 charts
    intro here a charted
    obtain ⟨log, out, course, same⟩ := first here a charted
    rw [follow] at same
    rw [follow, productions, same]
    cases out with
    | fits r => exact ⟨_, _, .here course (by rintro ⟨⟩), rfl⟩
    | broken e => exact ⟨_, _, .here course (by rintro ⟨⟩), rfl⟩
    | astray id => exact ⟨_, _, .here course (by rintro ⟨⟩), rfl⟩
    | misfit =>
      obtain ⟨more, out, further, same⟩ := ih others here a charted
      exact ⟨_, _, .next course further, same⟩

theorem charts_item {i : Item Grammar.Term} (charts : Charts w ctx (.term i.label i.term)) :
    Charts w ctx (.item i) := by
  cases suppressed : i.suppressed with
  | true => exact charts_suppressed suppressed
  | false =>
    exact charts_shown suppressed fun quantifier => charts_once (i := { i with quantifier }) charts

theorem charts_term (t : Grammar.Term) : ∀ label, Charts w ctx (.term label t) := by
  induction t using Term.inductionOn with
  | rule | literal | pattern =>
    intro label here a charted
    rw [follow, term]
    refine charts_leaf label ?_ here a charted
    rintro ps ⟨⟩
  | group ps ih =>
    intro label here a charted
    have each : ∀ p ∈ ps, Charts w ctx (.production p) := fun p member =>
      charts_production fun i inside => charts_item (ih p member i inside i.label)
    obtain ⟨log, out, course, same⟩ := charts_productions each here a charted
    rw [follow] at same
    rw [follow, term]
    exact ⟨_, _, .group course, same⟩

end Charts

/-! ## Nodes -/

section Nodes

variable {w : Walk} {ctx : Context} {children : List Child} (charted : ∀ c ∈ children, Charted w c)
include charted

theorem course_whole (p : Production Grammar.Term) : ∃ log,
    Course w (.whole ctx children p) log ((whole ctx (w.visits children) p).map fun a => ([], a)) := by
  unfold whole
  cases started : ctx.boundary .ruleStart {} with
  | misfit | broken | astray =>
    have course : Course w (.whole ctx children p) [] _ := .unstarted (started ▸ nofun)
    rw [started] at course
    exact ⟨_, course⟩
  | fits a =>
    have charts : Charts w ctx (.production p) :=
      charts_production fun i _ => charts_item (charts_term i.term i.label)
    obtain ⟨log, out, course, same⟩ := charts children a charted
    rw [follow] at same
    change ∃ log, Course w _ log (((production ctx p (w.visits children, a)).andThen _).map _)
    rw [same]
    cases out with
    | misfit => exact ⟨_, .unfinished started course fails_misfit⟩
    | broken e => exact ⟨_, .unfinished started course (fails_broken e)⟩
    | astray id => exact ⟨_, .unfinished started course (fails_astray id)⟩
    | fits r =>
      obtain ⟨rest, b⟩ := r
      cases rest with
      | nil => exact ⟨_, .whole started course⟩
      | cons c rest => exact ⟨_, .leftover started course (List.cons_ne_nil c rest)⟩

theorem course_alternatives (ps : List (Production Grammar.Term)) : ∃ log,
    Course w (.alternatives ctx children ps) log
      ((alternatives ctx (w.visits children) ps).map fun a => ([], a)) := by
  induction ps with
  | nil => exact ⟨_, .noAlternative⟩
  | cons p ps ih =>
    obtain ⟨log, course⟩ : ∃ log, Course w (.whole ctx children p) log _ := course_whole charted p
    rw [alternatives]
    cases tried : whole ctx (w.visits children) p with
    | fits | broken | astray =>
      rw [tried] at course
      exact ⟨_, .chosen course (by rintro ⟨⟩)⟩
    | misfit =>
      rw [tried] at course
      obtain ⟨more, further⟩ := ih
      exact ⟨_, .otherwise course further⟩

theorem course_node (id : Nat) (span : Span) (inTrivia : Bool) : ∃ log,
    Course w (.node ⟨id, span, children⟩ inTrivia) log
      ((w.node ⟨id, span, children⟩ inTrivia).map fun a => ([], a)) := by
  rw [Walk.node, Walk.rule]
  split
  · next none => exact ⟨_, .unknown none⟩
  · next r found =>
    let ctx := w.context r.name (inTrivia || w.grammar.isTrivia id)
    obtain ⟨log, course⟩ : ∃ log, Course w (.alternatives ctx children r.productions) log _ :=
      course_alternatives charted r.productions
    exact ⟨_, .node found course⟩

end Nodes

theorem charted (w : Walk) (c : Child) : Charted w c := by
  induction c with
  | token => exact nofun
  | node _ body ih | trivia _ body ih =>
    rintro _ ⟨⟩ inTrivia
    exact course_node ih body.rule body.span inTrivia

/-- The walk along a production does not go astray among trees of the grammar. -/
theorem stays_whole {w : Walk} {ctx : Context} (own : ctx.grammar = w.grammar) {children : List Child}
    (of : ∀ c ∈ children, c.Of w.grammar) (p : Production Grammar.Term) :
    (whole ctx (w.visits children) p).Stays := by
  obtain ⟨log, course⟩ : ∃ log, Course w (.whole ctx children p) log _ :=
    course_whole (fun c _ => charted w c) p
  intro id astray
  rw [astray] at course
  exact course.ne_astray ⟨own, of⟩ id rfl

/-- The walk through a tree of the grammar does not go astray. -/
theorem stays_node {w : Walk} {tree : Tree} (of : tree.Of w.grammar) (inTrivia : Bool) :
    (w.node tree inTrivia).Stays := by
  obtain ⟨log, course⟩ := course_node (fun c _ => charted w c) tree.rule tree.span inTrivia
  intro id astray
  rw [astray] at course
  exact course.ne_astray of id rfl

/-- What a style accepts at all has no node whose rule is not in the table. -/
theorem rule_lt_of_fits {w : Walk} {tree : Tree} {inTrivia : Bool} {a : Assembly}
    (fits : w.node tree inTrivia = .fits a) :
    ∀ c ∈ tree.children, ∀ inner ∈ c.node?, inner.rule < w.grammar.rules.length := by
  obtain ⟨log, course⟩ := course_node (fun c _ => charted w c) tree.rule tree.span inTrivia
  rw [fits] at course
  obtain ⟨front, all, known⟩ : w.Passes tree.children [] := course.passes
  rwa [all, List.append_nil]

/-- For a tree of the grammar there is an answer, a document or an error. -/
theorem raw?_eq_some {u : Unparser} {tree : Tree} (of : tree.Of u.grammar) (rule source : String) :
    u.raw? rule tree source = some (u.raw rule tree source) := by
  have answered : (u.raw? rule tree source).isSome := by
    unfold Unparser.raw?
    split
    · rfl
    · split_ifs
      · rfl
      · have stays := stays_node (w := ⟨u.grammar, u.style, source⟩) of false
        split
        · next id astray => exact absurd astray (stays id)
        · rfl
        · rfl
        · rfl
  obtain ⟨r, same⟩ := Option.isSome_iff_exists.1 answered
  rw [Unparser.raw, same, Option.getD_some]

/-- So there is one for every parsed tree, with whatever other source. -/
theorem raw?_of_parse {u : Unparser} {name parsed : String} {tree : Tree}
    (read : u.grammar.parse name parsed = .ok tree) (rule source : String) :
    u.raw? rule tree source = some (u.raw rule tree source) :=
  raw?_eq_some (Matching.derives_of_parse read).2.of rule source

end Reprint.Unparse
