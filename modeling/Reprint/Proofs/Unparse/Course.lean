import Reprint.Proofs.Parse.Run
import Reprint.Proofs.Unparse.Step

/-!
# The course of the walk

The walk is defined by what it leaves.  `Course` says instead how it goes about that,
call by call: through the children of a node along the productions of its rule, into the
trees of the children where a rule is referred to or trivia is kept, and once more from the
same place where something did not fit.  A repetition goes on only behind an occurrence
that took a child.  On the way the terms of suppressed items are noted whenever their text
is regenerated, also in what is given up later.

A course is finite, and there is no choice in it (`Course.unique`).  What is left of the
children is their end, and the nodes that were taken are of rules in the grammar's table
(`Course.passes`).  It goes astray only if some node of the tree is not
(`Course.ne_astray`).
-/

namespace Reprint.Unparse

open Matching (Part)

/-! ## Items between their directives -/

namespace Context

variable (ctx : Context)

/-- The treatment of an item outside trivia. -/
def treatment (label literal : Option String) : Treatment :=
  ctx.style.treatment ctx.rule label literal

/-- The document where an item's content begins. -/
def opened (label literal : Option String) (a : Assembly) : Walked Assembly :=
  if ctx.inTrivia then .fits a
  else directAll .before (ctx.treatment label literal matches .normal)
    (ctx.itemDirectives label literal).1 a

/-- Where the content goes: into the document, or to the side. -/
def inside (label literal : Option String) (a : Assembly) : Assembly :=
  if ctx.inTrivia then a
  else match ctx.treatment label literal with
    | .normal => a
    | .omitted | .replaced _ => {}

/-- The document behind an item, given the one where its content began and the one with
the content. -/
def closed (label literal : Option String) (a content : Assembly) : Walked Assembly :=
  if ctx.inTrivia then .fits content
  else directAll .after (ctx.treatment label literal matches .normal)
    (ctx.itemDirectives label literal).2 (match ctx.treatment label literal with
      | .normal => content
      | .omitted => a
      | .replaced d => a.addContent d)

theorem emit_eq (label literal : Option String) (content : Assembly → Walked Progress) (a : Assembly) :
    ctx.emit label literal content a = (ctx.opened label literal a).andThen fun b =>
      (content (ctx.inside label literal b)).andThen fun r =>
        (ctx.closed label literal b r.2).map fun d => (r.1, d) := by
  unfold emit opened inside closed
  by_cases inTrivia : ctx.inTrivia
  · simp only [if_pos inTrivia]
    change content a = (content a).andThen fun r => .fits (r.1, r.2)
    cases content a <;> rfl
  · simp only [if_neg inTrivia, treatment]
    congr 1
    funext b
    cases ctx.style.treatment ctx.rule label literal with
    | normal => rfl
    | omitted | replaced =>
      simp only [treated]
      cases content {} <;> rfl

/-- An occurrence of a suppressed item. -/
def rebuilt (i : Item Grammar.Term) (a : Assembly) : Walked Assembly :=
  (ctx.opened i.label i.term.literal? (if i.slot = .none then a else ctx.addSlot i.slot a)).andThen
    fun b => ctx.closed i.label i.term.literal? b
      ((ctx.inside i.label i.term.literal? b).addContent (regenerate ctx.style ctx.rule i.term))

theorem suppressed_eq (i : Item Grammar.Term) (rest : List Visit) (a : Assembly) :
    ctx.suppressed i.slot i.label i.term (rest, a) = (ctx.rebuilt i a).map fun b => (rest, b) := by
  unfold suppressed rebuilt
  dsimp only
  rw [emit_eq]
  cases ctx.opened i.label i.term.literal? (if i.slot = .none then a else ctx.addSlot i.slot a) <;> rfl

end Context

/-! ## Courses -/

/-- What the walk goes through. -/
inductive Stretch where
  /-- A node, inside or outside trivia. -/
  | node (body : Tree) (inTrivia : Bool)
  /-- Productions of a rule, one of which has to take all children. -/
  | alternatives (ctx : Context) (children : List Child) (ps : List (Production Grammar.Term))
  /-- One production that has to take all children. -/
  | whole (ctx : Context) (children : List Child) (p : Production Grammar.Term)
  /-- A part of a production, from the children that are left and the document so far. -/
  | part (ctx : Context) (part : Part) (here : List Child) (a : Assembly)

/-- What comes of a stretch: the children that are left behind it, none behind a node, and
the document. -/
abbrev Outcome := Walked (List Child × Assembly)

/-- The children that are left where a stretch begins. -/
def Stretch.left : Stretch → List Child
  | .node body _ => body.children
  | .alternatives _ children _ | .whole _ children _ | .part _ _ children _ => children

/-- There is nothing to go on with. -/
def Walked.Fails {α : Type} (x : Walked α) : Prop := ∀ a, x ≠ .fits a

/-- The course of the walk through a stretch, with the terms whose text is regenerated and
what comes of it. -/
inductive Course (w : Walk) : Stretch → List Grammar.Term → Outcome → Prop
  | node {body : Tree} {inTrivia : Bool} {r : Rule Grammar.Term} {log : List Grammar.Term}
      {out : Outcome} :
      w.grammar.rules[body.rule]? = some r →
      Course w (.alternatives (w.context r.name (inTrivia || w.grammar.isTrivia body.rule))
        body.children r.productions) log out →
      Course w (.node body inTrivia) log out
  /-- There is no such rule. -/
  | unknown {body : Tree} {inTrivia : Bool} :
      w.grammar.rules[body.rule]? = none → Course w (.node body inTrivia) [] (.astray body.rule)
  | noAlternative {ctx : Context} {children : List Child} :
      Course w (.alternatives ctx children []) [] .misfit
  | chosen {ctx : Context} {children : List Child} {p : Production Grammar.Term}
      {ps : List (Production Grammar.Term)} {log : List Grammar.Term} {out : Outcome} :
      Course w (.whole ctx children p) log out → out ≠ .misfit →
      Course w (.alternatives ctx children (p :: ps)) log out
  /-- The next production starts over. -/
  | otherwise {ctx : Context} {children : List Child} {p : Production Grammar.Term}
      {ps : List (Production Grammar.Term)} {log more : List Grammar.Term} {out : Outcome} :
      Course w (.whole ctx children p) log .misfit → Course w (.alternatives ctx children ps) more out →
      Course w (.alternatives ctx children (p :: ps)) (log ++ more) out
  | unstarted {ctx : Context} {children : List Child} {p : Production Grammar.Term} :
      (ctx.boundary .ruleStart {}).Fails →
      Course w (.whole ctx children p) [] ((ctx.boundary .ruleStart {}).map fun a => ([], a))
  | whole {ctx : Context} {children : List Child} {p : Production Grammar.Term} {a b : Assembly}
      {log : List Grammar.Term} :
      ctx.boundary .ruleStart {} = .fits a →
      Course w (.part ctx (.production p) children a) log (.fits ([], b)) →
      Course w (.whole ctx children p) log ((ctx.boundary .ruleEnd b).map fun d => ([], d))
  | leftover {ctx : Context} {children rest : List Child} {p : Production Grammar.Term}
      {a b : Assembly} {log : List Grammar.Term} :
      ctx.boundary .ruleStart {} = .fits a →
      Course w (.part ctx (.production p) children a) log (.fits (rest, b)) → rest ≠ [] →
      Course w (.whole ctx children p) log .misfit
  | unfinished {ctx : Context} {children : List Child} {p : Production Grammar.Term} {a : Assembly}
      {log : List Grammar.Term} {out : Outcome} :
      ctx.boundary .ruleStart {} = .fits a →
      Course w (.part ctx (.production p) children a) log out → out.Fails →
      Course w (.whole ctx children p) log out
  | tight {ctx : Context} {here : List Child} {a : Assembly} :
      Course w (.part ctx (.slot .none) here a) [] (.fits (here, a))
  | blanks {ctx : Context} {sep : Separator} {c : Child} {rest : List Child} {a : Assembly} :
      ctx.inTrivia = true → sep ≠ .none → ctx.isBlankToken c = true →
      Course w (.part ctx (.slot sep) (c :: rest) a) [] (.fits (rest, ctx.addSlot sep a))
  | noBlanks {ctx : Context} {here : List Child} {a : Assembly} :
      ctx.inTrivia = true → (∀ c ∈ here.head?, ctx.isBlankToken c = false) →
      Course w (.part ctx (.slot .allowed) here a) [] (.fits (here, ctx.addSlot .allowed a))
  | lackingBlanks {ctx : Context} {here : List Child} {a : Assembly} :
      ctx.inTrivia = true → (∀ c ∈ here.head?, ctx.isBlankToken c = false) →
      Course w (.part ctx (.slot .required) here a) [] .misfit
  | noTrivia {ctx : Context} {sep : Separator} {here : List Child} {a : Assembly} :
      ctx.inTrivia = false → sep ≠ .none → (∀ c ∈ here.head?, c.trivia? = none) →
      Course w (.part ctx (.slot sep) here a) [] (.fits (here, ctx.addSlot sep a))
  | dropped {ctx : Context} {sep : Separator} {label : Option String} {body : Tree} {rest : List Child}
      {a : Assembly} :
      ctx.inTrivia = false → sep ≠ .none → ctx.keeps a.lastWasTrivia body = .ok false →
      Course w (.part ctx (.slot sep) (.trivia label body :: rest) a) []
        (.fits (rest, ctx.addSlot sep a))
  /-- The trivia has its own rule, whatever the rule for trivia is. -/
  | kept {ctx : Context} {sep : Separator} {label : Option String} {body : Tree} {rest : List Child}
      {a : Assembly} {log : List Grammar.Term} {out : Outcome} :
      ctx.inTrivia = false → sep ≠ .none → ctx.keeps a.lastWasTrivia body = .ok true →
      Course w (.node body true) log out →
      Course w (.part ctx (.slot sep) (.trivia label body :: rest) a) log
        (out.andThen fun r => (Walked.ofExcept r.2.finish).map fun d =>
          (rest, a.addTrivia (.triviaSlot d (sep == .required))))
  /-- Looking for the names that are kept comes upon a rule that there is not. -/
  | unnamed {ctx : Context} {sep : Separator} {label : Option String} {body : Tree} {rest : List Child}
      {a : Assembly} {id : Nat} :
      ctx.inTrivia = false → sep ≠ .none → ctx.keeps a.lastWasTrivia body = .error id →
      Course w (.part ctx (.slot sep) (.trivia label body :: rest) a) [] (.astray id)
  | literal {ctx : Context} {label : Option String} {text : String} {span : Span} {rest : List Child}
      {a : Assembly} :
      span.slice? ctx.source = some text →
      Course w (.part ctx (.term label (.literal text)) (.token label span :: rest) a) []
        (.fits (rest, a.addContent (ctx.token text)))
  | pattern {ctx : Context} {label : Option String} {p : Pattern} {text : String} {span : Span}
      {rest : List Child} {a : Assembly} :
      span.slice? ctx.source = some text → p.takesAll text.toList →
      Course w (.part ctx (.term label (.pattern p)) (.token label span :: rest) a) []
        (.fits (rest, a.addContent (ctx.token text)))
  | rule {ctx : Context} {label : Option String} {id : Nat} {body : Tree} {rest : List Child}
      {a : Assembly} {log : List Grammar.Term} {out : Outcome} :
      body.rule = id → Course w (.node body ctx.inTrivia) log out →
      Course w (.part ctx (.term label (.rule id)) (.node label body :: rest) a) log
        (out.andThen fun r => (Walked.ofExcept (a.merge r.2)).map fun b => (rest, b))
  | missing {ctx : Context} {label : Option String} {t : Grammar.Term} {here : List Child}
      {a : Assembly} :
      (∀ ps, t ≠ .group ps) → (∀ c ∈ here.head?, ¬ Meets ctx.source label t c) →
      Course w (.part ctx (.term label t) here a) [] .misfit
  | group {ctx : Context} {label : Option String} {ps : List (Production Grammar.Term)}
      {here : List Child} {a : Assembly} {log : List Grammar.Term} {out : Outcome} :
      Course w (.part ctx (.productions ps) here a) log out →
      Course w (.part ctx (.term label (.group ps)) here a) log out
  | noSlot {ctx : Context} {i : Item Grammar.Term} {here : List Child} {a : Assembly}
      {log : List Grammar.Term} {out : Outcome} :
      Course w (.part ctx (.slot i.slot) here a) log out → out.Fails →
      Course w (.part ctx (.once i) here a) log out
  | unopened {ctx : Context} {i : Item Grammar.Term} {here rest : List Child} {a b : Assembly}
      {log : List Grammar.Term} :
      Course w (.part ctx (.slot i.slot) here a) log (.fits (rest, b)) →
      (ctx.opened i.label i.term.literal? b).Fails →
      Course w (.part ctx (.once i) here a) log
        ((ctx.opened i.label i.term.literal? b).map fun d => (rest, d))
  | once {ctx : Context} {i : Item Grammar.Term} {here rest : List Child} {a b d : Assembly}
      {log more : List Grammar.Term} {out : Outcome} :
      Course w (.part ctx (.slot i.slot) here a) log (.fits (rest, b)) →
      ctx.opened i.label i.term.literal? b = .fits d →
      Course w (.part ctx (.term i.label i.term) rest (ctx.inside i.label i.term.literal? d)) more out →
      Course w (.part ctx (.once i) here a) (log ++ more)
        (out.andThen fun r => (ctx.closed i.label i.term.literal? d r.2).map fun b => (r.1, b))
  /-- A suppressed item that does not have to occur leaves nothing. -/
  | spared {ctx : Context} {i : Item Grammar.Term} {here : List Child} {a : Assembly} :
      i.suppressed = true → i.quantifier.least = 0 →
      Course w (.part ctx (.item i) here a) [] (.fits (here, a))
  | rebuilt {ctx : Context} {i : Item Grammar.Term} {here : List Child} {a : Assembly} :
      i.suppressed = true → i.quantifier.least = 1 →
      Course w (.part ctx (.item i) here a) [i.term] ((ctx.rebuilt i a).map fun b => (here, b))
  | single {ctx : Context} {i : Item Grammar.Term} {here : List Child} {a : Assembly}
      {log : List Grammar.Term} {out : Outcome} :
      i.suppressed = false → i.quantifier = .one → Course w (.part ctx (.once i) here a) log out →
      Course w (.part ctx (.item i) here a) log out
  | optional {ctx : Context} {i : Item Grammar.Term} {here : List Child} {a : Assembly}
      {log : List Grammar.Term} {out : Outcome} :
      i.suppressed = false → i.quantifier = .optional →
      Course w (.part ctx (.once i) here a) log out →
      Course w (.part ctx (.item i) here a) log (out.orElse fun _ => .fits (here, a))
  /-- There is no further occurrence, nor does there have to be one if some may be missing. -/
  | stop {ctx : Context} {i : Item Grammar.Term} {here : List Child} {a : Assembly}
      {log : List Grammar.Term} :
      i.suppressed = false → i.quantifier.repeats = true →
      Course w (.part ctx (.once i) here a) log .misfit →
      Course w (.part ctx (.item i) here a) log
        (if i.quantifier.least = 0 then .fits (here, a) else .misfit)
  /-- Anything but a misfit is not made up for. -/
  | torn {ctx : Context} {i : Item Grammar.Term} {here : List Child} {a : Assembly}
      {log : List Grammar.Term} {out : Outcome} :
      i.suppressed = false → i.quantifier.repeats = true →
      Course w (.part ctx (.once i) here a) log out → out.Fails → out ≠ .misfit →
      Course w (.part ctx (.item i) here a) log out
  /-- An occurrence that takes no child is the last one. -/
  | last {ctx : Context} {i : Item Grammar.Term} {here rest : List Child} {a b : Assembly}
      {log : List Grammar.Term} :
      i.suppressed = false → i.quantifier.repeats = true →
      Course w (.part ctx (.once i) here a) log (.fits (rest, b)) → ¬ rest.length < here.length →
      Course w (.part ctx (.item i) here a) log (.fits (rest, b))
  /-- Behind an occurrence there may be any number of others. -/
  | more {ctx : Context} {i : Item Grammar.Term} {here rest : List Child} {a b : Assembly}
      {log more : List Grammar.Term} {out : Outcome} :
      i.suppressed = false → i.quantifier.repeats = true →
      Course w (.part ctx (.once i) here a) log (.fits (rest, b)) → rest.length < here.length →
      Course w (.part ctx (.item { i with quantifier := .many }) rest b) more out →
      Course w (.part ctx (.item i) here a) (log ++ more) out
  | nil {ctx : Context} {here : List Child} {a : Assembly} :
      Course w (.part ctx (.items []) here a) [] (.fits (here, a))
  | cons {ctx : Context} {i : Item Grammar.Term} {is : List (Item Grammar.Term)}
      {here rest : List Child} {a b : Assembly} {log more : List Grammar.Term} {out : Outcome} :
      Course w (.part ctx (.item i) here a) log (.fits (rest, b)) →
      Course w (.part ctx (.items is) rest b) more out →
      Course w (.part ctx (.items (i :: is)) here a) (log ++ more) out
  | noItem {ctx : Context} {i : Item Grammar.Term} {is : List (Item Grammar.Term)} {here : List Child}
      {a : Assembly} {log : List Grammar.Term} {out : Outcome} :
      Course w (.part ctx (.item i) here a) log out → out.Fails →
      Course w (.part ctx (.items (i :: is)) here a) log out
  | production {ctx : Context} {p : Production Grammar.Term} {here rest : List Child} {a b : Assembly}
      {log more : List Grammar.Term} {out : Outcome} :
      Course w (.part ctx (.items p.items) here a) log (.fits (rest, b)) →
      Course w (.part ctx (.slot p.trailing) rest b) more out →
      Course w (.part ctx (.production p) here a) (log ++ more) out
  | noItems {ctx : Context} {p : Production Grammar.Term} {here : List Child} {a : Assembly}
      {log : List Grammar.Term} {out : Outcome} :
      Course w (.part ctx (.items p.items) here a) log out → out.Fails →
      Course w (.part ctx (.production p) here a) log out
  | noProduction {ctx : Context} {here : List Child} {a : Assembly} :
      Course w (.part ctx (.productions []) here a) [] .misfit
  | here {ctx : Context} {p : Production Grammar.Term} {ps : List (Production Grammar.Term)}
      {here : List Child} {a : Assembly} {log : List Grammar.Term} {out : Outcome} :
      Course w (.part ctx (.production p) here a) log out → out ≠ .misfit →
      Course w (.part ctx (.productions (p :: ps)) here a) log out
  /-- The next production of a group goes on from the same place. -/
  | next {ctx : Context} {p : Production Grammar.Term} {ps : List (Production Grammar.Term)}
      {here : List Child} {a : Assembly} {log more : List Grammar.Term} {out : Outcome} :
      Course w (.part ctx (.production p) here a) log .misfit →
      Course w (.part ctx (.productions ps) here a) more out →
      Course w (.part ctx (.productions (p :: ps)) here a) (log ++ more) out

namespace Course

variable {w : Walk} {s : Stretch} {log : List Grammar.Term} {out : Outcome}

/-- There is only one course. -/
theorem unique (course : Course w s log out) {log' : List Grammar.Term} {out' : Outcome}
    (again : Course w s log' out') : log' = log ∧ out' = out := by
  -- Two ways to go on from one place exclude each other: by what they ask of the place, or by
  -- what came of the same stretch in front of them.
  induction course generalizing log' out' with
  | node | unknown => cases again <;> grind
  | noAlternative | chosen | otherwise => cases again <;> grind
  | unstarted | whole | leftover | unfinished => cases again <;> grind [Walked.Fails]
  | tight | blanks | noBlanks | lackingBlanks | noTrivia | dropped | kept | unnamed =>
    cases again <;> try simp only [List.head?_cons, Option.mem_some_iff, forall_eq'] at *
    all_goals grind [Child.trivia?]
  | literal | pattern | rule | missing | group =>
    cases again <;> try simp only [List.head?_cons, Option.mem_some_iff, forall_eq'] at *
    all_goals grind [Meets]
  | noSlot | unopened | once => cases again <;> grind [Walked.Fails]
  | spared | rebuilt | single | optional => cases again <;> grind [Quantifier.repeats]
  | stop | torn | last | more => cases again <;> grind [Quantifier.repeats, Walked.Fails]
  | nil | cons | noItem => cases again <;> grind [Walked.Fails]
  | production | noItems => cases again <;> grind [Walked.Fails]
  | noProduction | here | next => cases again <;> grind

end Course

/-! ## Nodes that are taken -/

/-- What is left of the children is their end, and the nodes in front of it are of rules in
the table. -/
def Walk.Passes (w : Walk) (here rest : List Child) : Prop :=
  ∃ front, here = front ++ rest ∧ ∀ c ∈ front, ∀ inner ∈ c.node?, inner.rule < w.grammar.rules.length

namespace Walk.Passes

variable {w : Walk} {here between rest : List Child}

theorem refl (here : List Child) : w.Passes here here := ⟨[], rfl, List.forall_mem_nil _⟩

theorem cons {c : Child} (own : ∀ inner ∈ c.node?, inner.rule < w.grammar.rules.length) :
    w.Passes (c :: rest) rest :=
  ⟨[c], rfl, List.forall_mem_singleton.2 own⟩

theorem trans (first : w.Passes here between) (second : w.Passes between rest) : w.Passes here rest := by
  obtain ⟨front, rfl, known⟩ := first
  obtain ⟨next, rfl, known'⟩ := second
  exact ⟨front ++ next, (List.append_assoc front next rest).symm, List.forall_mem_append.2 ⟨known, known'⟩⟩

theorem subset (passes : w.Passes here rest) : rest ⊆ here := by
  obtain ⟨front, rfl, -⟩ := passes
  exact List.subset_append_right front rest

end Walk.Passes

namespace Course

variable {w : Walk} {s : Stretch} {log : List Grammar.Term} {out : Outcome}

/-- Only a node of a rule in the table can be retraced. -/
theorem rule_lt {body : Tree} {inTrivia : Bool} {r : List Child × Assembly}
    (course : Course w (.node body inTrivia) log (.fits r)) : body.rule < w.grammar.rules.length := by
  cases course with
  | node found => exact (List.getElem?_eq_some_iff.1 found).1

theorem passes (course : Course w s log out) : out.Holds True fun r => w.Passes s.left r.1 := by
  induction course with
  | unknown | noAlternative | leftover | lackingBlanks | unnamed | missing | noProduction => trivial
  | node _ _ ih | chosen _ _ ih | otherwise _ _ _ ih | group _ ih | single _ _ _ ih | here _ _ ih
  | next _ _ _ ih | noItem _ _ ih | noItems _ _ ih | noSlot _ _ ih | unfinished _ _ _ ih
  | torn _ _ _ _ _ ih | last _ _ _ _ ih => exact ih
  | unstarted fails => exact Walked.holds_andThen fun a started => absurd started (fails a)
  | whole _ _ ih => exact Walked.holds_andThen fun _ _ => ih
  | tight | noBlanks | noTrivia | spared | nil => exact .refl _
  | @blanks _ _ c _ _ _ _ blank =>
    refine .cons ?_
    cases c with
    | token | trivia => exact nofun
    | node => cases blank
  | dropped | literal | pattern => exact .cons nofun
  | kept =>
    refine Walked.holds_andThen fun r _ => Walked.holds_andThen fun d _ => ?_
    exact .cons nofun
  | rule _ course =>
    refine Walked.holds_andThen fun r same => Walked.holds_andThen fun d _ => ?_
    subst same
    refine .cons ?_
    rintro _ ⟨⟩
    exact course.rule_lt
  | unopened _ _ ih => exact Walked.holds_andThen fun _ _ => ih
  | once _ _ _ first second =>
    exact second.andThen fun r more => Walked.holds_andThen fun _ _ => first.trans more
  | rebuilt => exact Walked.holds_andThen fun _ _ => .refl _
  | optional _ _ _ ih => exact ih.orElse (.refl _)
  | stop =>
    split_ifs
    · exact .refl _
    · trivial
  | more _ _ _ _ _ first second | cons _ _ first second | production _ _ first second =>
    exact second.mono fun r more => first.trans more

end Course

/-! ## Where the walk goes astray -/

namespace Walked

variable {α β : Type}

/-- A part that fits unless brackets do not nest. -/
def Sure : Walked α → Prop
  | .fits _ | .broken _ => True
  | .misfit | .astray _ => False

theorem sure_ofExcept (x : Except NestingError α) : (ofExcept x).Sure := by
  cases x <;> trivial

theorem Sure.andThen {x : Walked α} {f : α → Walked β} (first : x.Sure) (next : ∀ a, (f a).Sure) :
    (x.andThen f).Sure := by
  cases x with
  | fits a => exact next a
  | misfit | astray => exact first.elim
  | broken e => trivial

/-- The walk does not come upon a rule that the table does not have. -/
def Stays (x : Walked α) : Prop := ∀ id, x ≠ .astray id

theorem Sure.stays {x : Walked α} (sure : x.Sure) : x.Stays := by
  rintro id rfl
  exact sure.elim

theorem Stays.andThen {x : Walked α} {f : α → Walked β} (first : x.Stays)
    (next : ∀ a, x = .fits a → (f a).Stays) : (x.andThen f).Stays := by
  cases x with
  | fits a => exact next a rfl
  | misfit | broken => exact nofun
  | astray id => exact absurd rfl (first id)

theorem Stays.map {x : Walked α} (stays : x.Stays) (f : α → β) : (x.map f).Stays :=
  stays.andThen fun _ _ => nofun

theorem Stays.orElse {x : Walked α} {y : Unit → Walked α} (first : x.Stays) (second : (y ()).Stays) :
    (x.orElse y).Stays := by
  cases x with
  | fits a => exact nofun
  | misfit => exact second
  | broken e => exact nofun
  | astray id => exact absurd rfl (first id)

end Walked

section Sure

variable (ctx : Context) (label literal : Option String)

theorem sure_boundary (selector : Selector) (a : Assembly) : (ctx.boundary selector a).Sure := by
  unfold Context.boundary
  split_ifs
  · trivial
  · exact (Walked.sure_ofExcept _).andThen fun _ => Walked.sure_ofExcept _

theorem sure_opened (a : Assembly) : (ctx.opened label literal a).Sure := by
  unfold Context.opened
  split_ifs
  · trivial
  · exact Walked.sure_ofExcept _

theorem sure_closed (a content : Assembly) : (ctx.closed label literal a content).Sure := by
  unfold Context.closed
  split_ifs
  · trivial
  · exact Walked.sure_ofExcept _

end Sure

/-- The trees in front of the walk are of the grammar. -/
def Stretch.Of (w : Walk) : Stretch → Prop
  | .node body _ => body.Of w.grammar
  | .alternatives ctx children _ | .whole ctx children _ | .part ctx _ children _ =>
    ctx.grammar = w.grammar ∧ ∀ c ∈ children, c.Of w.grammar

/-- In trees of the grammar the walk does not go astray. -/
theorem Course.ne_astray {w : Walk} {s : Stretch} {log : List Grammar.Term} {out : Outcome}
    (course : Course w s log out) (of : s.Of w) : out.Stays := by
  induction course with
  | noAlternative | leftover | lackingBlanks | missing | noProduction | tight | blanks | noBlanks
  | noTrivia | dropped | literal | pattern | spared | last | nil => exact nofun
  | node _ _ ih => exact ih ⟨rfl, (Node.of_iff.1 of).2⟩
  | unknown none =>
    exact absurd (Node.of_iff.1 of).1 (by simpa using none)
  | chosen _ _ ih | otherwise _ _ _ ih | group _ ih | single _ _ _ ih | here _ _ ih | next _ _ _ ih
  | noItem _ _ ih | noItems _ _ ih | noSlot _ _ ih | unfinished _ _ _ ih | torn _ _ _ _ _ ih =>
    exact ih of
  | unstarted | whole => exact (sure_boundary ..).stays.map _
  | unnamed _ _ unnamed =>
    obtain ⟨own, inside⟩ := of
    have named := Node.Of.rule_lt (inside _ List.mem_cons_self _ rfl)
    rw [← own] at named
    rw [keeps_of_named named] at unnamed
    cases unnamed
  | kept _ _ _ _ ih =>
    obtain ⟨-, inside⟩ := of
    refine (ih (inside _ List.mem_cons_self _ rfl)).andThen fun r _ => ?_
    exact (Walked.sure_ofExcept _).stays.map _
  | rule _ _ ih =>
    obtain ⟨-, inside⟩ := of
    refine (ih (inside _ List.mem_cons_self _ rfl)).andThen fun r _ => ?_
    exact (Walked.sure_ofExcept _).stays.map _
  | unopened => exact (sure_opened ..).stays.map _
  | once first _ _ _ ih =>
    refine (ih ⟨of.1, fun c member => of.2 c (first.passes.subset member)⟩).andThen fun r _ => ?_
    exact (sure_closed ..).stays.map _
  | rebuilt =>
    unfold Context.rebuilt
    exact (Walked.Sure.andThen (sure_opened ..) fun _ => sure_closed ..).stays.map _
  | optional _ _ _ ih => exact (ih of).orElse nofun
  | stop => split_ifs <;> exact nofun
  | more _ _ first _ _ _ ih | cons first _ _ ih | production first _ _ ih =>
    exact ih ⟨of.1, fun c member => of.2 c (first.passes.subset member)⟩

end Reprint.Unparse
