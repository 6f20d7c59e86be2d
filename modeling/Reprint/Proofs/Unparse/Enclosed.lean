import Reprint.Proofs.Format.WhiteSpace
import Reprint.Proofs.Style.Whole
import Reprint.Proofs.Unparse.Adding
import Reprint.Proofs.Unparse.Nesting

/-!
# Nodes inside brackets

A sheet that brackets whole rules only never fails to nest, whatever the grammar, the
tree and the text are.  What the items of a node add lies inside the brackets of its
rule, outermost first: the general ones, then those for the rule, each in the order
in which they were written down (`raw_of_whole`).

All brackets of a node are opened before its first item is looked at and closed
behind its last one, and nothing that is tried in between opens or closes any.  The
brackets close in reverse order, so each closing finds its own bracket innermost.
-/

namespace Reprint

/-! ## Inside brackets -/

/-- Spacing that is asked for beside something. -/
def Doc.isAsked : Doc → Bool
  | .before _ | .after _ => true
  | _ => false

/-- Pieces inside brackets, outermost first, and beside each of them nothing but
spacing that is asked for. -/
inductive Enclosed : List Bracket → List Doc → List Doc → Prop
  | inside {own front back : List Doc} :
      (∀ d ∈ front ++ back, d.isAsked) → Enclosed [] own (front ++ own ++ back)
  | wrapped {b : Bracket} {bs : List Bracket} {own inner front back : List Doc} :
      (∀ d ∈ front ++ back, d.isAsked) → Enclosed bs own inner →
      Enclosed (b :: bs) own (front ++ [b.wrap inner] ++ back)

/-- Spacing may follow. -/
theorem Enclosed.concat {bs : List Bracket} {own docs : List Doc} (enclosed : Enclosed bs own docs)
    {d : Doc} (asked : d.isAsked) : Enclosed bs own (docs ++ [d]) := by
  cases enclosed with
  | @inside _ front back all =>
    rw [List.append_assoc _ back]
    refine .inside ?_
    rw [← List.append_assoc]
    exact List.forall_mem_append.2 ⟨all, List.forall_mem_singleton.2 asked⟩
  | @wrapped b bs _ inner front back all enclosed =>
    rw [List.append_assoc _ back]
    refine .wrapped ?_ enclosed
    rw [← List.append_assoc]
    exact List.forall_mem_append.2 ⟨all, List.forall_mem_singleton.2 asked⟩

namespace Unparse

/-- Nothing but spacing that is asked for. -/
def Asked (p : Pieces) : Prop := ∀ d ∈ p.toList, d.isAsked

theorem asked_push {p : Pieces} (asked : Asked p) {d : Doc} (own : d.isAsked) (trivia : Bool) :
    Asked (p.push d trivia) := by
  unfold Asked
  rw [Pieces.toList_push]
  exact List.forall_mem_append.2 ⟨asked, List.forall_mem_singleton.2 own⟩

/-- Spacing on a side becomes a control node. -/
theorem directAll_spacing (side : Side) (d : Doc) (ds : List Directive) (a : Assembly) :
    ∃ control : Doc, control.isAsked ∧ Context.directAll side true (.spacing d :: ds) a
      = Context.directAll side true ds (a.addControl control) := by
  rw [directAll_cons]
  cases side with
  | before => exact ⟨.before d, rfl, rfl⟩
  | after => exact ⟨.after d, rfl, rfl⟩

/-- Directives that open brackets only. -/
theorem exists_opened (side : Side) {ds : List Directive} {bs : List Bracket}
    (opens : ds.filter (fun d => !d.isSpacing) = bs.map .opening) {a : Assembly}
    (stands : a.Stands false) (asked : ∀ p ∈ a.levels, Asked p) :
    ∃ b, Context.directAll side true ds a = .fits b ∧ b.Stands false ∧
      b.brackets = bs.reverse ++ a.brackets ∧ ∀ p ∈ b.levels, Asked p := by
  induction ds generalizing a bs with
  | nil =>
    cases bs with
    | nil => exact ⟨a, rfl, stands, rfl, asked⟩
    | cons => cases opens
  | cons d ds ih =>
    cases d with
    | spacing d =>
      rw [List.filter_cons_of_neg (by simp)] at opens
      obtain ⟨control, own, direct⟩ := directAll_spacing side d ds a
      have levels : ∀ p ∈ (a.addControl control).levels, Asked p := by
        rw [a.levels_eq_cons] at asked
        obtain ⟨top, outer⟩ := List.forall_mem_cons.1 asked
        rw [Assembly.levels_addControl]
        exact List.forall_mem_cons.2 ⟨asked_push top own _, outer⟩
      rw [direct, ← Assembly.brackets_addControl a control]
      exact ih opens (stands.addControl control) levels
    | opening bracket =>
      rw [List.filter_cons_of_pos (by simp)] at opens
      obtain ⟨first, bs, rfl, same, others⟩ := List.map_eq_cons_iff.1 opens.symm
      obtain rfl : bracket = first := (Directive.opening.inj same).symm
      have levels : ∀ p ∈ (a.openBracket bracket).levels, Asked p := by
        rw [Assembly.levels_openBracket]
        exact List.forall_mem_cons.2 ⟨List.forall_mem_nil _, asked⟩
      obtain ⟨b, fits, next, brackets, rest⟩ := ih others.symm (stands.openBracket bracket) levels
      refine ⟨b, ?_, next, ?_, rest⟩
      · rw [directAll_cons]
        exact fits
      · rw [brackets, Assembly.brackets_openBracket, List.reverse_cons, List.append_assoc,
          List.singleton_append]
    | closing name =>
      rw [List.filter_cons_of_pos (by simp)] at opens
      obtain ⟨_, _, _, same, _⟩ := List.map_eq_cons_iff.1 opens.symm
      cases same

/-- The innermost level has pieces inside brackets that are closed already, and on the
other ones there is nothing but spacing that is asked for. -/
structure Wraps (closed : List Bracket) (own : List Doc) (a : Assembly) : Prop where
  inner : Enclosed closed own a.top.toList
  outer : ∀ p ∈ a.levels.tail, Asked p

namespace Wraps

variable {a : Assembly} {closed : List Bracket} {own : List Doc}

theorem addControl (wraps : Wraps closed own a) {d : Doc} (asked : d.isAsked) :
    Wraps closed own (a.addControl d) := by
  constructor
  · rw [Assembly.top_eq_of_levels (a.levels_addControl d), Pieces.toList_push]
    exact wraps.inner.concat asked
  · rw [a.levels_addControl d]
    exact wraps.outer

/-- Closing the innermost bracket puts one more bracket around the pieces. -/
theorem exists_closeBracket (wraps : Wraps closed own a) {bracket : Bracket} {outer : List Bracket}
    (opened : a.brackets = bracket :: outer) :
    ∃ b, a.closeBracket bracket.name = .ok b ∧ b.brackets = outer ∧
      Wraps (bracket :: closed) own b := by
  obtain ⟨b, next, rest, fits, left, levels, levels'⟩ := Assembly.exists_levels_closeBracket opened
  have below : Asked next ∧ ∀ p ∈ rest, Asked p := by
    have outer := wraps.outer
    rw [levels] at outer
    exact List.forall_mem_cons.1 outer
  refine ⟨b, fits, left, ?_, ?_⟩
  · rw [Assembly.top_eq_of_levels levels', Pieces.toList_push, ← List.append_nil (_ ++ _)]
    refine .wrapped ?_ wraps.inner
    rw [List.append_nil]
    exact below.1
  · rw [levels']
    exact below.2

end Wraps

/-- What is added where nothing but spacing stands is inside no bracket yet. -/
theorem wraps_extend {a : Assembly} (asked : ∀ p ∈ a.levels, Asked p) (added : Pieces) :
    Wraps [] added.toList (a.extend added) := by
  rw [a.levels_eq_cons] at asked
  obtain ⟨top, outer⟩ := List.forall_mem_cons.1 asked
  constructor
  · rw [Assembly.top_eq_of_levels (a.levels_extend added), Pieces.toList_append,
      ← List.append_nil (_ ++ _)]
    refine .inside ?_
    rw [List.append_nil]
    exact top
  · rw [a.levels_extend added]
    exact outer

/-- Directives that close the open brackets from the inside out. -/
theorem exists_closed (side : Side) {ds : List Directive} {bs : List Bracket}
    (closes : ds.filter (fun d => !d.isSpacing) = bs.map fun b => .closing b.name) {a : Assembly}
    {outer closed : List Bracket} {own : List Doc} (opened : a.brackets = bs ++ outer)
    (wraps : Wraps closed own a) :
    ∃ b, Context.directAll side true ds a = .fits b ∧ b.brackets = outer ∧
      Wraps (bs.reverse ++ closed) own b := by
  induction ds generalizing a bs closed with
  | nil =>
    cases bs with
    | nil => exact ⟨a, rfl, opened, wraps⟩
    | cons => cases closes
  | cons d ds ih =>
    cases d with
    | spacing d =>
      rw [List.filter_cons_of_neg (by simp)] at closes
      obtain ⟨control, asked, direct⟩ := directAll_spacing side d ds a
      rw [direct]
      exact ih closes ((a.brackets_addControl control).trans opened) (wraps.addControl asked)
    | opening bracket =>
      rw [List.filter_cons_of_pos (by simp)] at closes
      obtain ⟨_, _, _, same, _⟩ := List.map_eq_cons_iff.1 closes.symm
      cases same
    | closing name =>
      rw [List.filter_cons_of_pos (by simp)] at closes
      obtain ⟨bracket, bs, rfl, same, others⟩ := List.map_eq_cons_iff.1 closes.symm
      obtain rfl := Directive.closing.inj same
      obtain ⟨b, fits, left, wraps⟩ :=
        wraps.exists_closeBracket (opened.trans (List.cons_append ..))
      obtain ⟨c, fits', brackets, wraps⟩ := ih others.symm left wraps
      refine ⟨c, ?_, brackets, ?_⟩
      · rw [directAll_cons]
        simp only [Context.direct, fits, Walked.ofExcept, Walked.andThen, fits']
      · rwa [List.reverse_cons, List.append_assoc]

/-! ## Rules -/

section Rules

variable {ctx : Context} {children : List Visit} {own : List Doc → Prop}

/-- In trivia there are no brackets. -/
theorem closed_whole_inTrivia (gathers : Gathers ctx children own) (spaced : Spaced ctx)
    (inTrivia : ctx.inTrivia = true) (p : Production Grammar.Term) :
    (whole ctx children p).Holds False fun a => a.frames = [] := by
  have boundary : ∀ selector a, ctx.boundary selector a = .fits a :=
    fun _ _ => if_pos inTrivia
  unfold whole
  rw [boundary]
  rcases adds_production gathers spaced p children (List.Subset.refl _) false with
    misfit | ⟨id, astray⟩ | ⟨rest, added, -, -, fits⟩
  · simp only [Walked.andThen, misfit {} Assembly.stands_empty]
    trivial
  · simp only [Walked.andThen, astray {} Assembly.stands_empty]
    trivial
  · simp only [Walked.andThen, fits {} Assembly.stands_empty]
    split_ifs
    · rw [boundary]
      rfl
    · trivial

variable {around : List Bracket}

/-- The brackets of a rule are around whole nodes, and these are they. -/
def Context.Around (ctx : Context) (around : List Bracket) : Prop :=
  ∀ side selector, (ctx.directives side selector).filter (fun d => !d.isSpacing)
    = wholeAt around ⟨side, selector⟩

theorem Context.Around.spaced (framed : ctx.Around around) : Spaced ctx := by
  intro side selector start stop d member
  have none : (ctx.directives side selector).filter (fun d => !d.isSpacing) = [] := by
    rw [framed, wholeAt, if_neg (by simp [start]), if_neg (by simp [stop])]
  simpa using List.filter_eq_nil_iff.1 none d member

/-- In front of the first item all brackets of the rule are open. -/
theorem exists_started (framed : ctx.Around around) (outside : ctx.inTrivia = false) :
    ∃ a, ctx.boundary .ruleStart {} = .fits a ∧ a.Stands false ∧ a.brackets = around.reverse ∧
      ∀ p ∈ a.levels, Asked p := by
  have none : ∀ p ∈ ({} : Assembly).levels, Asked p := by
    intro p member
    obtain rfl := List.mem_singleton.1 member
    exact List.forall_mem_nil _
  have opens : (ctx.directives .after .ruleStart).filter (fun d => !d.isSpacing)
      = ([] : List Bracket).map .opening := framed .after .ruleStart
  obtain ⟨a, fits, stands, brackets, asked⟩ :=
    exists_opened .before (framed .before .ruleStart) Assembly.stands_empty none
  obtain ⟨b, fits', stands', brackets', asked'⟩ := exists_opened .after opens stands asked
  refine ⟨b, ?_, stands', ?_, asked'⟩
  · unfold Context.boundary
    rw [if_neg (by simp [outside]), fits]
    exact fits'
  · rw [brackets', brackets]
    exact List.append_nil _

/-- Behind the last item all brackets of the rule are closed around what is there. -/
theorem exists_ended (framed : ctx.Around around) (outside : ctx.inTrivia = false) {a : Assembly}
    {docs : List Doc} (opened : a.brackets = around.reverse) (wraps : Wraps [] docs a) :
    ∃ b, ctx.boundary .ruleEnd a = .fits b ∧ b.frames = [] ∧ Enclosed around docs b.docs := by
  have none : (ctx.directives .before .ruleEnd).filter (fun d => !d.isSpacing)
      = ([] : List Bracket).map fun b => .closing b.name := framed .before .ruleEnd
  have closes := framed .after .ruleEnd
  rw [wholeAt, if_neg (by simp), if_pos rfl, ← List.map_reverse] at closes
  obtain ⟨b, fits, brackets, wraps⟩ := exists_closed .before none (List.nil_append _).symm wraps
  rw [opened, ← List.append_nil around.reverse] at brackets
  obtain ⟨c, fits', brackets', wraps'⟩ := exists_closed .after closes brackets wraps
  have closed := Assembly.brackets_eq_nil.1 brackets'
  refine ⟨c, ?_, closed, ?_⟩
  · unfold Context.boundary
    rw [if_neg (by simp [outside]), fits]
    exact fits'
  · have inner := wraps'.inner
    rw [List.reverse_reverse, List.reverse_nil, List.append_nil, List.append_nil, Assembly.top,
      closed] at inner
    rwa [Assembly.docs_of_frames_eq_nil closed]

/-- What the items of a production add on their own is inside the brackets of the
rule. -/
theorem enclosed_whole (gathers : Gathers ctx children own) (framed : ctx.Around around)
    (outside : ctx.inTrivia = false) (p : Production Grammar.Term) :
    (whole ctx children p).Holds False fun a => a.frames = [] ∧
      ∃ b, production ctx p (children, {}) = .fits ([], b) ∧ own b.docs ∧
        Enclosed around b.docs a.docs := by
  obtain ⟨a, started, stands, opened, asked⟩ := exists_started framed outside
  unfold whole
  rw [started]
  rcases adds_production gathers framed.spaced p children (List.Subset.refl _) false with
    misfit | ⟨id, astray⟩ | ⟨rest, added, -, held, fits⟩
  · simp only [Walked.andThen, misfit a stands]
    trivial
  · simp only [Walked.andThen, astray a stands]
    trivial
  · simp only [Walked.andThen, fits a stands]
    split_ifs with done
    · -- The items take the same children and add the same pieces where no bracket is open.
      have alone := fits {} Assembly.stands_empty
      rw [List.isEmpty_iff.1 done] at alone
      rw [← Assembly.brackets_extend a added] at opened
      obtain ⟨b, ended, closed, enclosed⟩ :=
        exists_ended framed outside opened (wraps_extend asked added)
      rw [← Assembly.docs_extend_empty added] at held enclosed
      rw [ended]
      exact ⟨closed, _, alone, held, enclosed⟩
    · trivial

theorem holds_alternatives {P : Assembly → Prop} {ps : List (Production Grammar.Term)}
    (each : ∀ p ∈ ps, (whole ctx children p).Holds False P) :
    (alternatives ctx children ps).Holds False P := by
  induction ps with
  | nil => trivial
  | cons p ps ih =>
    obtain ⟨first, others⟩ := List.forall_mem_cons.1 each
    exact first.orElse (ih others)

end Rules

/-! ## Nodes -/

mutual

/-- What stands in a document for a node outside trivia, where the brackets around the
nodes of each rule are given. -/
inductive Bracketed (w : Walk) (around : String → List Bracket) : Tree → List Doc → Prop
  /-- What the items of a production add on their own is inside the brackets. -/
  | node {id : Nat} {span : Span} {children : List Child} {r : Rule Grammar.Term}
      {p : Production Grammar.Term} {a : Assembly} {docs : List Doc} :
      w.grammar.rules[id]? = some r → p ∈ r.productions → w.grammar.isTrivia id = false →
      production (w.context r.name false) p (w.visits children, {}) = .fits ([], a) →
      Own w around r.name children a.docs → Enclosed (around r.name) a.docs docs →
      Bracketed w around ⟨id, span, children⟩ docs
  /-- A node of the rule for trivia is trivia, wherever it stands. -/
  | trivia {tree : Tree} {a : Assembly} :
      w.grammar.isTrivia tree.rule = true → w.node tree false = .fits a →
      Bracketed w around tree a.docs

/-- What the items of a rule add outside trivia: single pieces and the parts of nodes
among the children. -/
inductive Own (w : Walk) (around : String → List Bracket) : String → List Child → List Doc → Prop
  | nil {rule : String} {children : List Child} : Own w around rule children []
  | append {rule : String} {children : List Child} {front back : List Doc} :
      Own w around rule children front → Own w around rule children back →
      Own w around rule children (front ++ back)
  | fragment {rule : String} {children : List Child} {d : Doc} :
      Fragment (w.context rule false) d → Own w around rule children [d]
  | node {rule : String} {children : List Child} {label : Option String} {body : Tree}
      {docs : List Doc} :
      .node label body ∈ children → Bracketed w around body docs → Own w around rule children docs

end

section Nodes

variable {w : Walk} {around : String → List Bracket}
  (framed : ∀ rule anchor, (w.style.entryAt rule anchor).brackets = wholeAt (around rule) anchor)

/-- A node leaves no bracket open, and outside trivia what stands for it is inside its
brackets. -/
def Encloses (w : Walk) (around : String → List Bracket) (body : Tree) : Prop :=
  ∀ inTrivia, (w.node body inTrivia).Holds False fun a => a.frames = [] ∧
    (inTrivia = false → Bracketed w around body a.docs)

theorem exists_visit {children : List Child} {v : Visit} (member : v ∈ w.visits children) :
    ∃ c ∈ children, v = w.visit c := by
  rw [visits_eq_map] at member
  obtain ⟨c, inside, rfl⟩ := List.mem_map.1 member
  exact ⟨c, inside, rfl⟩

theorem closed_of_encloses {children : List Child}
    (encloses : ∀ c ∈ children, ∀ body ∈ c.body?, Encloses w around body) :
    ∀ v ∈ w.visits children, ∀ inTrivia, (v.inner inTrivia).Holds False fun a => a.frames = [] := by
  intro v member inTrivia
  obtain ⟨c, inside, rfl⟩ := exists_visit member
  cases c with
  | token => trivial
  | node label body => exact (encloses _ inside body rfl inTrivia).mono fun _ held => held.1
  | trivia label body => exact (encloses _ inside body rfl inTrivia).mono fun _ held => held.1

theorem gathers_own {rule : String} {children : List Child}
    (encloses : ∀ c ∈ children, ∀ body ∈ c.body?, Encloses w around body) :
    Gathers (w.context rule false) (w.visits children) (Own w around rule children) where
  closed := closed_of_encloses encloses
  nil := .nil
  append := .append
  fragment := .fragment
  node := by
    intro v label body inner member child retraced
    obtain ⟨c, inside, rfl⟩ := exists_visit member
    rw [child_visit] at child
    subst child
    have held := encloses _ inside body rfl false
    have walked : w.node body false = .fits inner := retraced
    rw [walked] at held
    exact .node inside (held.2 rfl)

include framed in
theorem around_context (rule : String) (inTrivia : Bool) :
    (w.context rule inTrivia).Around (around rule) :=
  fun side selector => framed rule ⟨side, selector⟩

include framed in
/-- A node does what is to be shown of it if the trees of its children do. -/
theorem encloses_of_children {body : Tree}
    (encloses : ∀ c ∈ body.children, ∀ inner ∈ c.body?, Encloses w around inner) :
    Encloses w around body := by
  intro inTrivia
  obtain ⟨id, span, children⟩ := body
  cases found : w.grammar.rules[id]? with
  | none =>
    rw [Walk.node, Walk.rule, found]
    trivial
  | some r =>
    have walked : w.node ⟨id, span, children⟩ inTrivia
        = alternatives (w.context r.name (inTrivia || w.grammar.isTrivia id)) (w.visits children)
            r.productions := by
      rw [Walk.node, Walk.rule, found]
      rfl
    cases kind : inTrivia || w.grammar.isTrivia id with
    | true =>
      -- No directive is looked at here, so all that counts is that no bracket is open.
      rw [kind] at walked
      have gathers : Gathers (w.context r.name true) (w.visits children) fun _ => True :=
        ⟨closed_of_encloses encloses, trivial, fun _ _ => trivial, fun _ => trivial,
          fun _ _ _ => trivial⟩
      have closed : (w.node ⟨id, span, children⟩ inTrivia).Holds False fun a => a.frames = [] := by
        rw [walked]
        exact holds_alternatives fun p _ =>
          closed_whole_inTrivia gathers (around_context framed r.name true).spaced rfl p
      cases outcome : w.node ⟨id, span, children⟩ inTrivia with
      | misfit | astray => trivial
      | broken e =>
        rw [outcome] at closed
        exact closed
      | fits a =>
        rw [outcome] at closed
        refine ⟨closed, fun outside => ?_⟩
        subst outside
        exact .trivia kind outcome
    | false =>
      obtain ⟨rfl, outside⟩ := Bool.or_eq_false_iff.1 kind
      rw [walked, kind]
      have here := around_context framed r.name false
      refine holds_alternatives fun p member => ?_
      refine (enclosed_whole (gathers_own encloses) here rfl p).mono ?_
      rintro a ⟨closed, b, fits, own, enclosed⟩
      exact ⟨closed, fun _ => .node found member outside fits own enclosed⟩

include framed in
theorem encloses_body (c : Child) : ∀ body ∈ c.body?, Encloses w around body := by
  induction c with
  | token => nofun
  | node label body ih =>
    intro inner same
    obtain rfl := Option.mem_some_iff.1 same
    exact encloses_of_children framed ih
  | trivia label body ih =>
    intro inner same
    obtain rfl := Option.mem_some_iff.1 same
    exact encloses_of_children framed ih

include framed in
/-- Every tree is retraced inside the brackets around its nodes. -/
theorem encloses (body : Tree) : Encloses w around body :=
  encloses_of_children framed fun c _ => encloses_body framed c

end Nodes

/-- A style sheet that puts brackets around whole rules only never fails to nest.
What the items of a node add stands inside the brackets of its rule and inside no
others of its own: those for all rules, then those for the rule, each in the order of
the sheet. -/
theorem raw_of_whole {sheet : String} {cs : List Command} (read : Sheet.commands sheet = .ok cs)
    (whole : ∀ c ∈ cs, c.IsWhole) (g : Grammar) (rule : String) (tree : Tree) (source : String) :
    (∀ e, Unparser.raw ⟨g, .runAll {} cs⟩ rule tree source ≠ .error (.nesting e)) ∧
      ∀ d, Unparser.raw ⟨g, .runAll {} cs⟩ rule tree source = .ok d →
        ∃ docs, d = .concat docs ∧
          Bracketed ⟨g, .runAll {} cs, source⟩ (bracketsAround cs) tree docs := by
  have framed := Style.brackets_entryAt_whole (Sheet.stated_of_commands read) whole
  have walked := encloses (w := ⟨g, .runAll {} cs, source⟩) framed tree false
  refine ⟨raw_ne_nesting_of_holds (walked.mono fun _ held => held.1) rule, fun d done => ?_⟩
  obtain ⟨a, fits, same⟩ := Unparser.exists_of_raw done
  rw [fits] at walked
  exact ⟨a.docs, same, walked.2 rfl⟩

end Unparse

/-! ## A letter in parentheses -/

section Parenthesized

/-- A letter in parentheses. -/
def parenthesized : Grammar where
  rules := [
    ⟨"pair", [⟨[
      { term := .literal "(" }, { slot := .allowed, term := .rule 1 }, { term := .literal ")" }],
      .none⟩]⟩,
    ⟨"letter", [⟨[{ term := .literal "x" }], .none⟩]⟩]
  trivia := none

def parenthesizedTree : Tree :=
  ⟨0, ⟨0, 3⟩, [
    .token none ⟨0, 1⟩, .node none ⟨1, ⟨1, 2⟩, [.token none ⟨1, 2⟩]⟩, .token none ⟨2, 3⟩]⟩

/-- Brackets for one rule, with other statements between them, and a group for all rules. -/
def wrapping : String :=
  "rule pair \x7b join bsp; after rule_start \x7b soft; \x7d nest 4; \x7d ws_allowed: nil; group;"

/-- What the sheet stands for. -/
def wrappingCommands : List Command :=
  let start : Anchor := ⟨.before, .ruleStart⟩
  let stop : Anchor := ⟨.after, .ruleEnd⟩
  [.direct (some "pair") start (.opening (.join .line)),
    .direct (some "pair") stop (.closing .join),
    .direct (some "pair") ⟨.after, .ruleStart⟩ (.spacing .softline),
    .direct (some "pair") start (.opening (.indent (some 4))),
    .direct (some "pair") stop (.closing .indent), .setAllowed none .empty,
    .direct none start (.opening .group), .direct none stop (.closing .group)]

/-- The letter with its parentheses is in a group, though the group comes last in the
sheet, and the letter is in a group of its own. -/
def wrapped : Doc :=
  .group (.join [.indent (some 4) (.seq [
    .after .softline, .text "(", .spacingSlot .empty false, .group (.text "x"), .text ")"])] .line)

end Parenthesized

theorem raw_of_whole_parenthesized :
    Sheet.commands wrapping = .ok wrappingCommands ∧ (∀ c ∈ wrappingCommands, c.IsWhole) ∧
      bracketsAround wrappingCommands "pair" = [.group, .join .line, .indent (some 4)] ∧
      let style := Style.runAll {} wrappingCommands
      let raw := Unparser.raw ⟨parenthesized, style⟩ "pair" parenthesizedTree "(x)"
      (∀ e, raw ≠ .error (.nesting e)) ∧ raw = .ok wrapped ∧ ∃ docs, wrapped = .concat docs ∧
        Unparse.Bracketed ⟨parenthesized, style, "(x)"⟩ (bracketsAround wrappingCommands)
          parenthesizedTree docs := by
  have read : Sheet.commands wrapping = .ok wrappingCommands := by with_unfolding_all rfl
  have whole : ∀ c ∈ wrappingCommands, c.IsWhole := by
    simp [wrappingCommands, Command.IsWhole]
  have done : Unparser.raw ⟨parenthesized, .runAll {} wrappingCommands⟩ "pair" parenthesizedTree
      "(x)" = .ok wrapped := by with_unfolding_all rfl
  obtain ⟨nests, bracketed⟩ :=
    Unparse.raw_of_whole read whole parenthesized "pair" parenthesizedTree "(x)"
  exact ⟨read, whole, rfl, nests, done, bracketed wrapped done⟩

end Reprint
