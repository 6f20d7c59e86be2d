import Reprint.Tree
import Reprint.Text.Blank
import Reprint.Unparse.Regenerate

/-!
# Retracing a tree

The children of a node are read along the productions of its rule, and a
document is assembled on the way.  Nothing is decided about spacing: each slot
of the grammar becomes a slot of the document, with the trivia kept there or
what is usual there, and spacing directives become control nodes.

That a production does not fit the children is an ordinary outcome.  Brackets that
do not nest stop the walk, and so does a rule that the grammar's table does not have:
a node names its rule by its place in a table, which is that of its own grammar.

The recursion follows the tree: the children come with their own trees already
read, as far as they are needed, and the productions are followed on the list of
children that are left.
-/

namespace Reprint.Unparse

/-! ## Outcomes -/

/-- The outcome of a part of the walk. -/
inductive Walked (α : Type) where
  | fits (a : α)
  /-- The children are not such as the grammar says here. -/
  | misfit
  /-- Brackets do not nest. -/
  | broken (e : NestingError)
  /-- The tree names a rule by a place that the table does not have. -/
  | astray (id : Nat)

namespace Walked

variable {α β : Type}

/-- One part and, if it fits, another one with its result. -/
def andThen (x : Walked α) (f : α → Walked β) : Walked β :=
  match x with
  | .fits a => f a
  | .misfit => .misfit
  | .broken e => .broken e
  | .astray id => .astray id

/-- One part and, if it does not fit, another one. -/
def orElse (x : Walked α) (y : Unit → Walked α) : Walked α :=
  match x with
  | .fits a => .fits a
  | .misfit => y ()
  | .broken e => .broken e
  | .astray id => .astray id

/-- The result of a fit changed. -/
def map (f : α → β) (x : Walked α) : Walked β := x.andThen fun a => .fits (f a)

/-- What can only fail because brackets do not nest. -/
def ofExcept : Except NestingError α → Walked α
  | .ok a => .fits a
  | .error e => .broken e

end Walked

/-- A child, with how its own tree is retraced inside or outside trivia. -/
structure Visit where
  child : Child
  inner : Bool → Walked Assembly

/-- The children that are left and the document so far. -/
abbrev Progress := List Visit × Assembly

/-- What the walk depends on inside one rule. -/
structure Context where
  grammar : Grammar
  style : Style
  source : String
  /-- The name of the rule. -/
  rule : String
  inTrivia : Bool

namespace Context

variable (ctx : Context)

/-! ## Directives -/

/-- Carries a directive out.  Spacing is left out if `spaced` is false. -/
def direct (side : Side) (spaced : Bool) (a : Assembly) : Directive → Except NestingError Assembly
  | .spacing d =>
    if spaced then
      .ok (a.addControl (match side with
        | .before => .before d
        | .after => .after d))
    else .ok a
  | .opening b => .ok (a.openBracket b)
  | .closing name => a.closeBracket name

/-- The directives at an anchor of the rule. -/
def directives (side : Side) (selector : Selector) : List Directive :=
  (ctx.style.entryAt ctx.rule ⟨side, selector⟩).directives

/-- The directives before and after an item.  Those of its label enclose those
of its text. -/
def itemDirectives (label literal : Option String) : List Directive × List Directive :=
  let look (side : Side) (selector : Option Selector) : List Directive :=
    (selector.map (ctx.directives side)).getD []
  let label := label.map Selector.label
  let literal := literal.map Selector.literal
  (look .before label ++ look .before literal, look .after literal ++ look .after label)

/-- Carries directives out one after the other. -/
def directAll (side : Side) (spaced : Bool) (ds : List Directive) (a : Assembly) :
    Walked Assembly :=
  .ofExcept (ds.foldlM (direct side spaced) a)

/-- The directives at an end of the rule. -/
def boundary (selector : Selector) (a : Assembly) : Walked Assembly :=
  if ctx.inTrivia then .fits a
  else
    (directAll .before true (ctx.directives .before selector) a).andThen
      (directAll .after true (ctx.directives .after selector))

/-- An item's content, treated as the style says: in place, left out or
replaced.  The children have to fit in any case. -/
def treated (treatment : Treatment) (content : Assembly → Walked Progress) (a : Assembly) :
    Walked Progress :=
  match treatment with
  | .normal => content a
  | .omitted => (content {}).map fun (rest, _) => (rest, a)
  | .replaced d => (content {}).map fun (rest, _) => (rest, a.addContent d)

/-- An item's content between its directives. -/
def emit (label literal : Option String) (content : Assembly → Walked Progress) (a : Assembly) :
    Walked Progress :=
  if ctx.inTrivia then content a
  else
    let treatment := ctx.style.treatment ctx.rule label literal
    let spaced := treatment matches .normal
    let (before, after) := ctx.itemDirectives label literal
    (directAll .before spaced before a).andThen fun a =>
      (treated treatment content a).andThen fun (rest, a) =>
        (directAll .after spaced after a).map fun a => (rest, a)

/-! ## Slots -/

/-- Whether a child is blank text without a label. -/
def isBlankToken : Child → Bool
  | .token none span =>
    match span.slice? ctx.source with
    | some text => !text.isEmpty && Text.allBlank text
    | none => false
  | _ => false

/-- Whether trivia is kept: not if the last thing kept was trivia, nor if the style does
not want it.  The rules of its nodes are looked up one by one until a wanted one is
found, and the place of one that the table does not have is all that is left then. -/
def keeps (behindTrivia : Bool) (body : Tree) : Except Nat Bool :=
  if behindTrivia then .ok false
  else
    match ctx.style.retention with
    | .all => .ok true
    | .only rules =>
      (body.children.filterMap Child.node?).anyM fun inner =>
        match ctx.grammar.rules[inner.rule]? with
        | none => .error inner.rule
        | some r => .ok (rules.contains r.name)

/-- Adds the slot with what is usual there. -/
def addSlot (sep : Separator) (a : Assembly) : Assembly :=
  a.addControl (ctx.style.usualSlot ctx.rule sep)

/-- A slot inside trivia: blank text is taken but not kept. -/
def innerSlot (sep : Separator) : Progress → Walked Progress
  | (v :: rest, a) =>
    if ctx.isBlankToken v.child then .fits (rest, ctx.addSlot sep a)
    else if sep = .required then .misfit
    else .fits (v :: rest, ctx.addSlot sep a)
  | ([], a) => if sep = .required then .misfit else .fits ([], ctx.addSlot sep a)

/-- A slot outside trivia: trivia is taken, and kept unless the last thing kept
was trivia or the style does not want it. -/
def outerSlot (sep : Separator) : Progress → Walked Progress
  | (v :: rest, a) =>
    match v.child with
    | .trivia _ body =>
      match ctx.keeps a.lastWasTrivia body with
      | .error id => .astray id
      | .ok false => .fits (rest, ctx.addSlot sep a)
      | .ok true =>
        (v.inner true).andThen fun inner =>
          (Walked.ofExcept inner.finish).map fun d =>
            (rest, a.addTrivia (.triviaSlot d (sep == .required)))
    | _ => .fits (v :: rest, ctx.addSlot sep a)
  | ([], a) => .fits ([], ctx.addSlot sep a)

/-- A slot. -/
def slot (sep : Separator) (p : Progress) : Walked Progress :=
  if sep = .none then .fits p
  else if ctx.inTrivia then ctx.innerSlot sep p
  else ctx.outerSlot sep p

/-! ## Tokens and nodes -/

/-- The text of a token.  Inside trivia text that is not blank is a comment. -/
def token (text : String) : Doc :=
  if ctx.inTrivia && !Text.allBlank text then .comment text else .text text

/-- A literal, a pattern or a rule on the next child. -/
def leaf (label : Option String) (term : Grammar.Term) : Progress → Walked Progress
  | ([], _) => .misfit
  | (v :: rest, a) =>
    if v.child.label ≠ label then .misfit
    else
      match term, v.child with
      | .rule id, .node _ body =>
        if body.rule = id then
          (v.inner ctx.inTrivia).andThen fun inner =>
            (Walked.ofExcept (a.merge inner)).map fun a => (rest, a)
        else .misfit
      | .literal text, .token _ span =>
        if span.slice? ctx.source = some text then .fits (rest, a.addContent (ctx.token text))
        else .misfit
      | .pattern p, .token _ span =>
        match span.slice? ctx.source with
        | some text =>
          if p.takesAll text.toList then .fits (rest, a.addContent (ctx.token text)) else .misfit
        | none => .misfit
      | _, _ => .misfit

/-- A suppressed item, regenerated from the grammar. -/
def suppressed (slot : Separator) (label : Option String) (term : Grammar.Term) (p : Progress) :
    Walked Progress :=
  let (rest, a) := p
  let a := if slot = .none then a else ctx.addSlot slot a
  ctx.emit label term.literal?
    (fun a => .fits (rest, a.addContent (regenerate ctx.style ctx.rule term))) a

end Context

/-! ## Productions -/

/-- As many occurrences as there are, up to one that takes no child. -/
def repeated (once : Progress → Walked Progress) (p : Progress) : Walked (Nat × Progress) :=
  match once p with
  | .misfit => .fits (0, p)
  | .broken e => .broken e
  | .astray id => .astray id
  | .fits q =>
    if q.1.length < p.1.length then (repeated once q).map fun (n, r) => (n + 1, r)
    else .fits (1, q)
termination_by p.1.length

/-- The same step so many times. -/
def times (once : Progress → Walked Progress) : Nat → Progress → Walked Progress
  | 0, p => .fits p
  | n + 1, p => (once p).andThen (times once n)

/-- So many occurrences as a quantifier asks for. -/
def quantified (quantifier : Quantifier) (once : Progress → Walked Progress) (p : Progress) :
    Walked Progress :=
  match quantifier with
  | .one => once p
  | .optional => (once p).orElse fun _ => .fits p
  | .many | .some =>
    (repeated once p).andThen fun (n, q) =>
      if quantifier.least ≤ n then .fits q else .misfit

variable (ctx : Context)

mutual

/-- A term under a label. -/
def term (label : Option String) : Grammar.Term → Progress → Walked Progress
  | .group ps, p => productions ps p
  | .rule id, p => ctx.leaf label (.rule id) p
  | .literal text, p => ctx.leaf label (.literal text) p
  | .pattern r, p => ctx.leaf label (.pattern r) p
termination_by structural t => t

/-- An item: a suppressed one is regenerated, any other is looked for among the children. -/
def item : Item Grammar.Term → Progress → Walked Progress
  | ⟨slot, label, t, quantifier, suppressed⟩, p =>
    if suppressed then times (ctx.suppressed slot label t) quantifier.least p
    else
      quantified quantifier
        (fun p =>
          (ctx.slot slot p).andThen fun (rest, a) =>
            ctx.emit label t.literal? (fun a => term label t (rest, a)) a)
        p
termination_by structural i => i

def items : List (Item Grammar.Term) → Progress → Walked Progress
  | [], p => .fits p
  | i :: is, p => (item i p).andThen fun q => items is q
termination_by structural is => is

/-- All items of a production, then its last slot. -/
def production : Production Grammar.Term → Progress → Walked Progress
  | ⟨is, trailing⟩, p => (items is p).andThen fun q => ctx.slot trailing q
termination_by structural p => p

/-- The first production that fits. -/
def productions : List (Production Grammar.Term) → Progress → Walked Progress
  | [], _ => .misfit
  | p :: ps, q => (production p q).orElse fun _ => productions ps q
termination_by structural ps => ps

end

/-! ## Nodes -/

/-- One production that has to take all children, between the directives at the
ends of the rule. -/
def whole (children : List Visit) (p : Production Grammar.Term) : Walked Assembly :=
  (ctx.boundary .ruleStart {}).andThen fun a =>
    (production ctx p (children, a)).andThen fun (rest, a) =>
      if rest.isEmpty then ctx.boundary .ruleEnd a else .misfit

/-- The first production that takes all children. -/
def alternatives (children : List Visit) : List (Production Grammar.Term) → Walked Assembly
  | [] => .misfit
  | p :: ps => (whole ctx children p).orElse fun _ => alternatives children ps

/-- What a walk through a whole tree depends on. -/
structure Walk where
  grammar : Grammar
  style : Style
  source : String

namespace Walk

variable (w : Walk)

/-- A rule over children. -/
def rule (id : Nat) (inTrivia : Bool) (children : List Visit) : Walked Assembly :=
  match w.grammar.rules[id]? with
  | none => .astray id
  | some r =>
    alternatives
      { grammar := w.grammar, style := w.style, source := w.source, rule := r.name
        inTrivia := inTrivia || w.grammar.isTrivia id }
      children r.productions

mutual

/-- A node. -/
def node : Node Child → Bool → Walked Assembly
  | ⟨id, _, children⟩, inTrivia => w.rule id inTrivia (visits children)
termination_by structural n => n

def visit : Child → Visit
  | .token label span => ⟨.token label span, fun _ => .misfit⟩
  | .node label body => ⟨.node label body, fun inTrivia => node body inTrivia⟩
  | .trivia label body => ⟨.trivia label body, fun inTrivia => node body inTrivia⟩
termination_by structural c => c

/-- The children with how their own trees are retraced. -/
def visits : List Child → List Visit
  | [] => []
  | c :: cs => visit c :: visits cs
termination_by structural cs => cs

end

end Walk

end Reprint.Unparse
