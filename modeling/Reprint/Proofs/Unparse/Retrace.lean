import Reprint.Proofs.Parse.Tiling
import Reprint.Proofs.Unparse.Charting
import Reprint.Proofs.Unparse.Plain

/-!
# Retracing what was parsed

The parser chooses among productions and decides how often an item occurs by
looking at the text; the walk makes the same choices by looking at the children.
What the parser passed over the walk may still find, since the children that are
left can look as if it were there.  If it takes the same children for it as the
parser took instead, and patterns take all of the text that they took, the walk
follows the run of the parser (`retraces_of_run`).
-/

namespace Reprint

namespace Matching

/-! ## Where children start -/

/-- What a child says about the place in a rule at which it starts. -/
def Starts (g : Grammar) (site : Site) (c : Cursor) : Child → Prop
  | .token _ span => ∃ text d, c.Ahead text d ∧ span = c.spanTo d
  | .node .. => True
  | .trivia _ body => site.inTrivia = false ∧ ∃ id d, g.trivia = some id ∧
    (rule g site.depth id true site.stack c).Gives (some (body, d)) ∧ body.span.isEmpty = false

/-- The first child that is left starts at the place of a stage. -/
def Ready (g : Grammar) (site : Site) (s : Stage) : Prop := ∀ c ∈ s.left.head?, Starts g site s.place c

theorem ready_nil (g : Grammar) (site : Site) (d : Cursor) : Ready g site ⟨d, []⟩ :=
  fun _ member => nomatch member

/-- A part takes no text before the children that it takes or leaves. -/
theorem ready_of_run {g : Grammar} {site : Site} {part : Part} {s t : Stage} {log : List Note}
    (run : Run g site part s t log) (ready : Ready g site t) : Ready g site s := by
  induction run with
  | tight | noBlanks | untold | noTrivia | absent | stop | nil => exact ready
  | blanks | literal | pattern =>
    rintro _ ⟨⟩
    exact ⟨_, _, Cursor.ahead_advance _ _, rfl⟩
  | trivia _ outside known _ called moved =>
    rintro _ ⟨⟩
    exact ⟨outside, _, _, known, called, beq_eq_false_iff_ne.2 moved⟩
  | node =>
    rintro _ ⟨⟩
    trivial
  | group _ ih | single _ _ _ ih | many _ _ _ _ ih | here _ ih | next _ _ ih | last _ _ ih =>
    exact ih ready
  | once _ _ first second | more _ _ _ first second | cons _ _ first second
  | production _ _ first second => exact first (second ready)

end Matching

namespace Unparse

open Matching (Part Site Stage Note Run Ready Starts)

/-! ## Following a run -/

/-- The context of a rule by its place in the table. -/
def Walk.within (w : Walk) (id : Nat) (inTrivia : Bool) : Context :=
  w.context (w.grammar.ruleName id) inTrivia

/-- Whatever has been written, the walk through a part takes the children up to
those that are left behind it. -/
def Retraces (w : Walk) (id : Nat) (inTrivia : Bool) (part : Part) (here behind : List Child) : Prop :=
  ∀ a : Assembly, a.frames = [] → ∃ b : Assembly, b.frames = [] ∧
    follow (w.within id inTrivia) part (w.visits here, a) = .fits (w.visits behind, b)

/-- The walk does not find a part that the parser passed over, or takes the same
children for it as the parser took instead. -/
def Concurs (w : Walk) (id : Nat) (inTrivia : Bool) (part : Part) (here behind : List Child) : Prop :=
  ∀ a : Assembly, a.frames = [] →
    follow (w.within id inTrivia) part (w.visits here, a) = .misfit ∨
      ∃ b : Assembly, b.frames = [] ∧
        follow (w.within id inTrivia) part (w.visits here, a) = .fits (w.visits behind, b)

/-- A pattern takes all of the text that it took, and the walk concurs where a
part was passed over. -/
def Agrees (w : Walk) : Note → Prop
  | .took p text => p.takesAll text
  | .passed id inTrivia part here behind => Concurs w id inTrivia part here behind

/-- The walk through so many occurrences finds at least as many. -/
theorem follow_repeats {ctx : Context} {i : Item Grammar.Term} {count : Nat} {p q : Progress} :
    follow ctx (.repeats i count) p = .fits q ↔
      ∃ n, count ≤ n ∧ repeated (once ctx i) p = .fits (n, q) := by
  rw [follow]
  cases all : repeated (once ctx i) p with
  | misfit | broken | astray => simp [Walked.andThen]
  | fits r =>
    obtain ⟨n, q'⟩ := r
    simp only [Walked.andThen, Walked.fits.injEq, Prod.mk.injEq]
    constructor
    · intro taken
      split_ifs at taken with enough
      exact ⟨n, enough, rfl, Walked.fits.inj taken⟩
    · rintro ⟨_, enough, rfl, rfl⟩
      rw [if_pos enough]

/-! ## Slots -/

section Steps

variable {w : Walk} {id : Nat} {inTrivia : Bool} {label : Option String} {left : List Child}

theorem retraces_tight : Retraces w id inTrivia (.slot .none) left left :=
  fun a shut => ⟨a, shut, slot_none _ _⟩

/-- Inside trivia nothing is taken for a slot if no blank text is left at its place. -/
theorem retraces_noBlank (free : ∀ c ∈ left.head?, (w.within id true).isBlankToken c = false) :
    Retraces w id true (.slot .allowed) left left := by
  intro a shut
  refine ⟨(w.within id true).addSlot .allowed a, Assembly.frames_push.2 shut, ?_⟩
  exact slot_of_noBlank rfl (forall_head_visits.2 free)

/-- Outside trivia nothing is taken for a slot if no trivia is left at its place. -/
theorem retraces_noTrivia {sep : Separator} (some : sep ≠ .none)
    (free : ∀ c ∈ left.head?, c.isTrivia = false) : Retraces w id false (.slot sep) left left := by
  intro a shut
  refine ⟨(w.within id false).addSlot sep a, Assembly.frames_push.2 shut, ?_⟩
  exact slot_of_noTrivia rfl some (forall_head_visits.2 free)

theorem retraces_blank {sep : Separator} (some : sep ≠ .none) {c : Child}
    (blank : (w.within id true).isBlankToken c) :
    Retraces w id true (.slot sep) (c :: left) left := by
  intro a shut
  refine ⟨(w.within id true).addSlot sep a, Assembly.frames_push.2 shut, ?_⟩
  exact slot_of_blank rfl some ((child_visit w c).symm ▸ blank)

/-- In the default style trivia is taken whether it is kept or not. -/
theorem retraces_trivia (plain : w.style = {}) {sep : Separator} (some : sep ≠ .none) {body : Tree}
    {inner : Assembly} (fits : w.node body true = .fits inner) (closed : inner.frames = []) :
    Retraces w id false (.slot sep) (.trivia label body :: left) left := by
  intro a shut
  have fits : (w.visit (.trivia label body)).inner true = .fits inner := fits
  have wanted : (w.within id false).keeps a.lastWasTrivia body = .ok (!a.lastWasTrivia) :=
    keeps_plain plain a.lastWasTrivia body
  rw [follow, Walk.visits]
  cases behind : a.lastWasTrivia with
  | false =>
    rw [behind] at wanted
    refine ⟨a.addTrivia (.triviaSlot (.concat inner.docs) (sep == .required)),
      Assembly.frames_push.2 shut, ?_⟩
    rw [slot_of_kept rfl some rfl (by rw [behind]; exact wanted), fits, Walked.andThen,
      Assembly.finish_eq_ok.2 ⟨closed, rfl⟩]
    rfl
  | true =>
    rw [behind] at wanted
    refine ⟨(w.within id false).addSlot sep a, Assembly.frames_push.2 shut, ?_⟩
    exact slot_of_dropped rfl some rfl (by rw [behind]; exact wanted)

/-! ## Terms -/

theorem retraces_literal {text : String} {span : Span} (found : span.slice? w.source = some text) :
    Retraces w id inTrivia (.term label (.literal text)) (.token label span :: left) left := by
  intro a shut
  refine ⟨a.addContent ((w.within id inTrivia).token text), Assembly.frames_push.2 shut, ?_⟩
  rw [follow, term]
  exact leaf_of_token rfl found .literal

theorem retraces_pattern {p : Pattern} {text : String} {span : Span}
    (found : span.slice? w.source = some text) (all : p.takesAll text.toList) :
    Retraces w id inTrivia (.term label (.pattern p)) (.token label span :: left) left := by
  intro a shut
  refine ⟨a.addContent ((w.within id inTrivia).token text), Assembly.frames_push.2 shut, ?_⟩
  rw [follow, term]
  exact leaf_of_token rfl found (.pattern all)

theorem retraces_node {body : Tree} {inner : Assembly} (fits : w.node body inTrivia = .fits inner)
    (closed : inner.frames = []) :
    Retraces w id inTrivia (.term label (.rule body.rule)) (.node label body :: left) left := by
  intro a shut
  obtain ⟨b, merged, brackets⟩ := a.exists_merge closed
  refine ⟨b, ?_, ?_⟩
  · rwa [← Assembly.brackets_eq_nil, brackets, Assembly.brackets_eq_nil]
  · have fits : (w.visit (.node label body)).inner (w.within id inTrivia).inTrivia = .fits inner := fits
    rw [follow, term, Walk.visits, leaf_of_node rfl, fits, Walked.andThen, merged]
    rfl

/-! ## Items and productions -/

variable {here between behind : List Child}

/-- Two parts that make up a third one are retraced one after the other. -/
theorem Retraces.andThen {first second part : Part}
    (one : Retraces w id inTrivia first here between)
    (other : Retraces w id inTrivia second between behind)
    (split : ∀ p, follow (w.within id inTrivia) part p
      = (follow (w.within id inTrivia) first p).andThen (follow (w.within id inTrivia) second)) :
    Retraces w id inTrivia part here behind := by
  intro a shut
  obtain ⟨b, shut, front⟩ := one a shut
  obtain ⟨c, shut, back⟩ := other b shut
  refine ⟨c, shut, ?_⟩
  rw [split, front]
  exact back

theorem retraces_once (plain : w.style = {}) {i : Item Grammar.Term}
    (slot : Retraces w id inTrivia (.slot i.slot) here between)
    (matched : Retraces w id inTrivia (.term i.label i.term) between behind) :
    Retraces w id inTrivia (.once i) here behind :=
  slot.andThen matched fun p => once_plain plain i p

theorem retraces_single {i : Item Grammar.Term} (shown : i.suppressed = false)
    (single : i.quantifier.repeats = false) (once : Retraces w id inTrivia (.once i) here behind) :
    Retraces w id inTrivia (.item i) here behind := by
  intro a shut
  obtain ⟨b, shut, fits⟩ := once a shut
  refine ⟨b, shut, ?_⟩
  rw [follow] at fits
  rw [follow, item_eq _ shown]
  cases quantifier : i.quantifier with
  | one => exact fits
  | optional =>
    rw [quantified, fits]
    rfl
  | many | some =>
    rw [quantifier] at single
    cases single

theorem retraces_absent {i : Item Grammar.Term} (shown : i.suppressed = false)
    (optional : i.quantifier = .optional) (concurs : Concurs w id inTrivia (.once i) left left) :
    Retraces w id inTrivia (.item i) left left := by
  intro a shut
  rcases concurs a shut with misfit | ⟨b, shut', fits⟩
  · refine ⟨a, shut, ?_⟩
    rw [follow] at misfit
    rw [follow, item_eq _ shown, optional, quantified, misfit]
    rfl
  · refine ⟨b, shut', ?_⟩
    rw [follow] at fits
    rw [follow, item_eq _ shown, optional, quantified, fits]
    rfl

theorem retraces_many {i : Item Grammar.Term} (shown : i.suppressed = false)
    (repeats : i.quantifier.repeats) {count : Nat} (enough : i.quantifier.least ≤ count)
    (all : Retraces w id inTrivia (.repeats i count) here behind) :
    Retraces w id inTrivia (.item i) here behind := by
  intro a shut
  obtain ⟨b, shut, fits⟩ := all a shut
  obtain ⟨n, more, fits⟩ := follow_repeats.1 fits
  have fits := follow_repeats.2 ⟨n, enough.trans more, fits⟩
  refine ⟨b, shut, ?_⟩
  rw [follow] at fits
  rw [follow, item_eq _ shown]
  cases quantifier : i.quantifier with
  | one | optional =>
    rw [quantifier] at repeats
    cases repeats
  | many | some =>
    rw [quantifier] at fits
    exact fits

/-- An occurrence that takes no child is the last one. -/
theorem repeated_of_still {i : Item Grammar.Term} {a b : Assembly} (still : ¬ behind.length < here.length)
    (fits : once (w.within id inTrivia) i (w.visits here, a) = .fits (w.visits behind, b)) :
    repeated (once (w.within id inTrivia) i) (w.visits here, a) = .fits (1, w.visits behind, b) := by
  have still : ¬ (w.visits behind).length < (w.visits here).length := by
    rwa [length_visits, length_visits]
  rw [repeated, fits]
  exact if_neg still

theorem retraces_stop {i : Item Grammar.Term} (concurs : Concurs w id inTrivia (.once i) left left) :
    Retraces w id inTrivia (.repeats i 0) left left := by
  intro a shut
  rcases concurs a shut with misfit | ⟨b, shut', fits⟩
  · refine ⟨a, shut, follow_repeats.2 ⟨0, le_rfl, ?_⟩⟩
    rw [follow] at misfit
    rw [repeated, misfit]
  · exact ⟨b, shut', follow_repeats.2 ⟨1, Nat.zero_le _, repeated_of_still (lt_irrefl _) fits⟩⟩

theorem retraces_last {i : Item Grammar.Term} (still : ¬ behind.length < here.length)
    (once : Retraces w id inTrivia (.once i) here behind) :
    Retraces w id inTrivia (.repeats i 1) here behind := by
  intro a shut
  obtain ⟨b, shut, fits⟩ := once a shut
  exact ⟨b, shut, follow_repeats.2 ⟨1, le_rfl, repeated_of_still still fits⟩⟩

/-- One more occurrence that takes a child. -/
theorem retraces_more {i : Item Grammar.Term} {count : Nat} (fewer : between.length < here.length)
    (once : Retraces w id inTrivia (.once i) here between)
    (others : Retraces w id inTrivia (.repeats i count) between behind) :
    Retraces w id inTrivia (.repeats i (count + 1)) here behind := by
  intro a shut
  obtain ⟨b, shut, first⟩ := once a shut
  obtain ⟨c, shut, rest⟩ := others b shut
  obtain ⟨n, more, rest⟩ := follow_repeats.1 rest
  refine ⟨c, shut, follow_repeats.2 ⟨n + 1, Nat.succ_le_succ more, ?_⟩⟩
  rw [follow] at first
  have progress : (w.visits between).length < (w.visits here).length := by
    rwa [length_visits, length_visits]
  rw [repeated, first]
  simp only [if_pos progress, rest, Walked.map, Walked.andThen]

theorem retraces_cons {i : Item Grammar.Term} {is : List (Item Grammar.Term)}
    (first : Retraces w id inTrivia (.item i) here between)
    (others : Retraces w id inTrivia (.items is) between behind) :
    Retraces w id inTrivia (.items (i :: is)) here behind :=
  first.andThen others fun _ => rfl

theorem retraces_production {p : Production Grammar.Term}
    (body : Retraces w id inTrivia (.items p.items) here between)
    (slot : Retraces w id inTrivia (.slot p.trailing) between behind) :
    Retraces w id inTrivia (.production p) here behind := by
  obtain ⟨is, trailing⟩ := p
  exact body.andThen slot fun _ => rfl

theorem retraces_here {p : Production Grammar.Term} {ps : List (Production Grammar.Term)}
    (first : Retraces w id inTrivia (.production p) here behind) :
    Retraces w id inTrivia (.productions (p :: ps)) here behind := by
  intro a shut
  obtain ⟨b, shut, fits⟩ := first a shut
  refine ⟨b, shut, ?_⟩
  rw [follow] at fits
  rw [follow, productions, fits]
  rfl

theorem retraces_next {p : Production Grammar.Term} {ps : List (Production Grammar.Term)}
    (concurs : Concurs w id inTrivia (.production p) here behind)
    (others : Retraces w id inTrivia (.productions ps) here behind) :
    Retraces w id inTrivia (.productions (p :: ps)) here behind := by
  intro a shut
  rcases concurs a shut with misfit | ⟨b, shut', fits⟩
  · obtain ⟨b, shut', fits⟩ := others a shut
    refine ⟨b, shut', ?_⟩
    rw [follow] at misfit
    rw [follow, productions, misfit]
    exact fits
  · refine ⟨b, shut', ?_⟩
    rw [follow] at fits
    rw [follow, productions, fits]
    rfl

end Steps

/-! ## Rules -/

theorem exists_alternatives {ctx : Context} {children : List Visit} {ps : List (Production Grammar.Term)}
    (closed : ∀ p ∈ ps, (whole ctx children p).Holds False fun a => a.frames = [])
    (stays : ∀ p ∈ ps, (whole ctx children p).Stays)
    {p : Production Grammar.Term} (member : p ∈ ps) {a : Assembly}
    (fits : whole ctx children p = .fits a) :
    ∃ b, alternatives ctx children ps = .fits b ∧ b.frames = [] := by
  induction ps with
  | nil => cases member
  | cons q ps ih =>
    obtain ⟨first, others⟩ := List.forall_mem_cons.1 closed
    obtain ⟨stay, stays⟩ := List.forall_mem_cons.1 stays
    rw [alternatives]
    cases tried : whole ctx children q with
    | fits b =>
      rw [tried] at first
      exact ⟨b, rfl, first⟩
    | broken e =>
      rw [tried] at first
      exact first.elim
    | astray id => exact absurd tried (stay id)
    | misfit =>
      rcases List.mem_cons.1 member with rfl | member
      · rw [tried] at fits
        cases fits
      · exact ih others stays member

/-- A rule takes all children if one of its productions does. -/
theorem exists_rule {g : Grammar} (unsuppressed : g.Unsuppressed) {source : String} {id : Nat}
    {r : Rule Grammar.Term} (found : g.rules[id]? = some r) {p : Production Grammar.Term}
    (member : p ∈ r.productions) {inTrivia : Bool} {children : List Child} (of : ∀ c ∈ children, c.Of g)
    (retraces : Retraces (.plain g source) id (inTrivia || g.isTrivia id) (.production p) children []) :
    ∃ a, (Walk.plain g source).rule id inTrivia ((Walk.plain g source).visits children) = .fits a ∧
      a.frames = [] := by
  obtain ⟨b, shut, fits⟩ := retraces {} rfl
  have name : g.ruleName id = r.name := by
    rw [Grammar.ruleName, found]
    rfl
  rw [follow, Walk.within, name] at fits
  have taken : whole ((Walk.plain g source).context r.name (inTrivia || g.isTrivia id))
      ((Walk.plain g source).visits children) p = .fits b := by
    rw [whole, boundary_plain rfl, Walked.andThen, fits]
    exact boundary_plain rfl .ruleEnd b
  unfold Walk.rule
  rw [found]
  refine exists_alternatives (fun q inside => ?_) (fun q _ => stays_whole rfl of q) member taken
  exact closed_whole unsuppressed source found (closed_visits unsuppressed source children) inside

/-! ## Runs -/

/-- The children that a run takes are of the grammar, for their rules were called. -/
theorem of_of_run {g : Grammar} {site : Site} {part : Part} {s t : Stage} {log : List Note}
    (run : Run g site part s t log) : ∃ xs, s.left = xs ++ t.left ∧ ∀ x ∈ xs, x.Of g := by
  have called {id : Nat} {r : Rule Grammar.Term} {span : Span} {children xs : List Child}
      (found : g.rules[id]? = some r) (all : children = xs ++ []) (inside : ∀ x ∈ xs, x.Of g) :
      Node.Of g ⟨id, span, children⟩ := by
    rw [List.append_nil] at all
    exact Node.of_iff.2 ⟨(List.getElem?_eq_some_iff.1 found).1, all ▸ inside⟩
  induction run with
  | tight | noBlanks | untold | noTrivia | absent | stop | nil => exact ⟨[], rfl, List.forall_mem_nil _⟩
  | blanks | literal | pattern => exact ⟨[_], rfl, List.forall_mem_singleton.2 nofun⟩
  | trivia _ _ _ _ _ _ found _ _ ih | node _ found _ _ ih =>
    obtain ⟨xs, all, inside⟩ := ih
    refine ⟨[_], rfl, List.forall_mem_singleton.2 ?_⟩
    rintro _ ⟨⟩
    exact called found all inside
  | group _ ih | single _ _ _ ih | many _ _ _ _ ih | here _ ih | next _ _ ih | last _ _ ih => exact ih
  | once _ _ first second | more _ _ _ first second | cons _ _ first second
  | production _ _ first second =>
    obtain ⟨xs, same, front⟩ := first
    obtain ⟨ys, same', back⟩ := second
    exact ⟨xs ++ ys, by rw [same, same', List.append_assoc], List.forall_mem_append.2 ⟨front, back⟩⟩

theorem of_children_of_run {g : Grammar} {site : Site} {part : Part} {c d : Cursor}
    {children : List Child} {log : List Note} (run : Run g site part ⟨c, children⟩ ⟨d, []⟩ log) :
    ∀ x ∈ children, x.Of g := by
  obtain ⟨xs, all, inside⟩ := of_of_run run
  obtain rfl : children = xs := all.trans (List.append_nil xs)
  exact inside

theorem within_of_run {g : Grammar} {source : String} {site : Site} {part : Part} {s t : Stage}
    {log : List Note} (run : Run g site part s t log) (within : s.place.In source) :
    t.place.In source := by
  obtain ⟨xs, _, laid⟩ := Matching.laid_of_run run
  exact within.ahead (laid.ahead within)

/-- A run that takes text takes a child. -/
theorem length_lt_of_run {g : Grammar} {site : Site} {part : Part} {s t : Stage} {log : List Note}
    (run : Run g site part s t log) (progress : t.place.rest.length < s.place.rest.length) :
    t.left.length < s.left.length := by
  obtain ⟨xs, split, laid⟩ := Matching.laid_of_run run
  cases xs with
  | nil =>
    rw [laid.eq_of_nil] at progress
    exact absurd progress (lt_irrefl _)
  | cons x xs =>
    rw [split]
    simp only [List.cons_append, List.length_cons, List.length_append]
    omega

/-- A child is blank text only if blanks come where it starts. -/
theorem isBlankToken_of_starts {g : Grammar} {site : Site} {source : String} {c : Cursor}
    (within : c.In source) {x : Child} (starts : Starts g site c x)
    (none : c.rest.takeWhile Text.isBlank = []) {ctx : Context} (same : ctx.source = source) :
    ctx.isBlankToken x = false := by
  cases x with
  | node | trivia => rfl
  | token label span =>
    cases label with
    | some label => rfl
    | none =>
      obtain ⟨text, d, ahead, rfl⟩ := starts
      have found := ahead.slice?_spanTo within
      simp only [Context.isBlankToken, same, found]
      cases text with
      | nil => rfl
      | cons x xs =>
        have front : c.rest = x :: (xs ++ d.rest) := ahead.1
        rw [front, List.takeWhile_cons] at none
        split_ifs at none with blank
        simp [Text.allBlank, blank]

theorem isBlankToken_blanks {source : String} {c : Cursor} (within : c.In source) {text : List Char}
    (all : c.rest.takeWhile Text.isBlank = text) (some : text ≠ []) {ctx : Context}
    (same : ctx.source = source) :
    ctx.isBlankToken (.token none (c.spanTo (c.advance text.length))) := by
  have ahead := c.ahead_advance text.length
  have own : c.rest.take text.length = text := by
    rw [← all, Matching.take_length_takeWhile]
  rw [own] at ahead
  simp only [Context.isBlankToken, same, ahead.slice?_spanTo within, Bool.and_eq_true]
  refine ⟨?_, ?_⟩
  · simpa [String.isEmpty_iff] using some
  · rw [Text.allBlank, String.toList_ofList, List.all_eq_true, ← all]
    exact fun x member => List.mem_takeWhile_imp member

/-- No trivia starts where the rule for it matches nothing. -/
theorem isTrivia_of_starts {g : Grammar} {site : Site} {c : Cursor} {x : Child}
    (starts : Starts g site c x)
    (none : ∀ id tree d, g.trivia = some id →
      (Matching.rule g site.depth id true site.stack c).Gives (some (tree, d)) → tree.span.isEmpty) :
    x.isTrivia = false := by
  cases x with
  | token | node => rfl
  | trivia label body =>
    obtain ⟨_, id, d, known, called, filled⟩ := starts
    rw [none id body d known called] at filled
    cases filled

/-- Where the walk concurs with the parser and patterns take what they took, the
walk follows the run of the parser. -/
theorem retraces_of_run {g : Grammar} (unsuppressed : g.Unsuppressed) {source : String} {site : Site}
    {part : Part} {s t : Stage} {log : List Note} (run : Run g site part s t log)
    (within : s.place.In source) (ready : Ready g site t)
    (agrees : ∀ note ∈ log, Agrees (.plain g source) note) :
    Retraces (.plain g source) site.rule site.inTrivia part s.left t.left := by
  induction run with
  | tight => exact retraces_tight
  | blanks some inside all filled =>
    rw [inside]
    exact retraces_blank some (isBlankToken_blanks within all filled rfl)
  | noBlanks inside none =>
    rw [inside]
    exact retraces_noBlank fun c member => isBlankToken_of_starts within (ready c member) none rfl
  | untold some outside none =>
    rw [outside]
    refine retraces_noTrivia some fun c member => isTrivia_of_starts (ready c member) ?_
    intro id tree d known
    rw [none] at known
    cases known
  | @trivia _ _ id _ _ p _ _ children _ _ some outside known deep called moved found first run ih =>
    rw [outside]
    have inside : Retraces (.plain g source) id (true || g.isTrivia id) (.production p) children [] :=
      ih within (Matching.ready_nil _ _ _) agrees
    obtain ⟨inner, fits, closed⟩ :=
      exists_rule unsuppressed found first.mem (of_children_of_run run) inside
    exact retraces_trivia rfl some fits closed
  | noTrivia outside known none =>
    rw [outside]
    refine retraces_noTrivia (by decide) fun c member => isTrivia_of_starts (ready c member) ?_
    intro other tree d known' called
    obtain rfl := Option.some.inj (known.symm.trans known')
    exact none tree d called
  | @literal _ _ text c _ found =>
    have ahead := c.ahead_advance text.toList.length
    rw [← List.prefix_iff_eq_take.1 found] at ahead
    have sliced := ahead.slice?_spanTo within
    rw [String.ofList_toList] at sliced
    exact retraces_literal sliced
  | @pattern _ _ p count c _ taken =>
    have all := agrees _ List.mem_cons_self
    rw [Agrees, ← String.toList_ofList (l := c.rest.take count)] at all
    exact retraces_pattern ((c.ahead_advance count).slice?_spanTo within) all
  | @node site _ id _ _ p _ _ children _ _ deep found first run ih =>
    have inside : Retraces (.plain g source) id (site.inTrivia || g.isTrivia id) (.production p)
        children [] := ih within (Matching.ready_nil _ _ _) agrees
    obtain ⟨inner, fits, closed⟩ :=
      exists_rule unsuppressed found first.mem (of_children_of_run run) inside
    exact retraces_node fits closed
  | group run ih => exact ih within ready agrees
  -- What starts behind the second part is known from the end of the run, and where
  -- the first part ends from its start: readiness goes backward, places forward.
  | once slot term first second =>
    obtain ⟨front, back⟩ := List.forall_mem_append.1 agrees
    exact retraces_once rfl (first within (Matching.ready_of_run term ready) front)
      (second (within_of_run slot within) ready back)
  | single shown single run ih => exact retraces_single shown single (ih within ready agrees)
  | absent shown optional _ =>
    exact retraces_absent shown optional (agrees _ List.mem_cons_self)
  | many shown repeats enough run ih => exact retraces_many shown repeats enough (ih within ready agrees)
  | stop _ => exact retraces_stop (agrees _ List.mem_cons_self)
  | last run still ih =>
    obtain ⟨front, back⟩ := List.forall_mem_append.1 agrees
    have once := ih within ready front
    split_ifs at back with fewer
    · exact retraces_more fewer once (retraces_stop (back _ List.mem_cons_self))
    · exact retraces_last fewer once
  | more run progress others first second =>
    obtain ⟨front, back⟩ := List.forall_mem_append.1 agrees
    exact retraces_more (length_lt_of_run run progress)
      (first within (Matching.ready_of_run others ready) front)
      (second (within_of_run run within) ready back)
  | nil => exact fun a shut => ⟨a, shut, rfl⟩
  | cons run others first second =>
    obtain ⟨front, back⟩ := List.forall_mem_append.1 agrees
    exact retraces_cons (first within (Matching.ready_of_run others ready) front)
      (second (within_of_run run within) ready back)
  | production run slot first second =>
    obtain ⟨front, back⟩ := List.forall_mem_append.1 agrees
    exact retraces_production (first within (Matching.ready_of_run slot ready) front)
      (second (within_of_run run within) ready back)
  | here run ih => exact retraces_here (ih within ready agrees)
  | next _ run ih =>
    obtain ⟨concurs, agrees⟩ := List.forall_mem_cons.1 agrees
    exact retraces_next concurs (ih within ready agrees)

end Unparse

end Reprint
