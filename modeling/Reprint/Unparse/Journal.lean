import Reprint.Unparse.Walk

/-!
# Retracing on one assembly

The same walk with a single assembly for each production of a rule, which changes as the
walk goes on.  What need not fit is tried behind a mark: an occurrence of an item that may
be absent or repeat, and a production of a group.  If it fits, what it did is kept;
otherwise the journal undoes it, and no copy of the assembly is made.  Nodes among the
children have assemblies of their own, as have items whose content is not wanted.
-/

namespace Reprint.Unparse.Journal

/-! ## Work on an assembly -/

/-- Why the walk stops at once. -/
inductive Stop where
  | broken (e : NestingError)
  | astray (id : Nat)
  /-- What was done since a mark is to be kept, but the mark lies beyond the journal. -/
  | unmarked (mark : Nat)

/-- What is done to an assembly.  Where it does not fit, the assembly stays as it is then. -/
abbrev Work := OptionT (StateT Assembly (Except Stop))

/-- The work done on an assembly. -/
def Work.on {α : Type} (work : Work α) (a : Assembly) : Except Stop (Option α × Assembly) :=
  work.run.run a

/-- What became of a part of the walk with an assembly of its own. -/
def told {α : Type} : Walked α → Except Stop (Option α)
  | .fits a => .ok (some a)
  | .misfit => .ok none
  | .broken e => .error (.broken e)
  | .astray id => .error (.astray id)

/-- A change to the assembly that may fail to nest. -/
def make (change : Assembly → Except NestingError Assembly) : Work Unit := do
  set (← (change (← get)).mapError Stop.broken)

/-- Keeps what was done since a mark. -/
def commit (mark : Nat) : StateT Assembly (Except Stop) Unit := fun a =>
  match a.commit? mark with
  | some b => .ok ((), b)
  | none => .error (.unmarked mark)

/-- Work behind a mark: what it did is kept if it fits, and undone otherwise. -/
def tried {α : Type} (work : Work α) : Work (Option α) := OptionT.lift do
  let mark ← modifyGet Assembly.mark
  let outcome ← work.run
  if outcome.isSome then commit mark else modify fun a => a.rollback mark
  return outcome

/-- Work on an assembly of its own, which is not looked at again. -/
def aside {α : Type} (work : Work α) : Work α := OptionT.mk do
  let (fits, _) ← work.on {}
  return fits

variable (ctx : Context)

/-! ## Directives -/

/-- Carries directives out one after the other. -/
def directAll (side : Side) (spaced : Bool) (ds : List Directive) : Work Unit :=
  make fun a => ds.foldlM (Context.direct side spaced) a

/-- The directives at an end of the rule. -/
def boundary (selector : Selector) : Work Unit :=
  if ctx.inTrivia then return
  else do
    directAll .before true (ctx.directives .before selector)
    directAll .after true (ctx.directives .after selector)

/-- An item's content, treated as the style says. -/
def treated (treatment : Treatment) (content : Work (List Visit)) : Work (List Visit) :=
  match treatment with
  | .normal => content
  | .omitted => aside content
  | .replaced d => do
    let rest ← aside content
    modify fun a => a.addContent d
    return rest

/-- An item's content between its directives. -/
def emit (label literal : Option String) (content : Work (List Visit)) : Work (List Visit) :=
  if ctx.inTrivia then content
  else do
    let treatment := ctx.style.treatment ctx.rule label literal
    let spaced := treatment matches .normal
    let (before, after) := ctx.itemDirectives label literal
    directAll .before spaced before
    let rest ← treated treatment content
    directAll .after spaced after
    return rest

/-! ## Slots -/

/-- Adds the slot with what is usual there. -/
def addSlot (sep : Separator) : Work Unit := modify (ctx.addSlot sep)

/-- A slot inside trivia. -/
def innerSlot (sep : Separator) : List Visit → Work (List Visit)
  | v :: rest => do
    if ctx.isBlankToken v.child then
      addSlot ctx sep
      return rest
    else if sep = .required then failure
    else
      addSlot ctx sep
      return v :: rest
  | [] => do
    if sep = .required then failure
    else
      addSlot ctx sep
      return []

/-- A slot outside trivia. -/
def outerSlot (sep : Separator) : List Visit → Work (List Visit)
  | v :: rest =>
    match v.child with
    | .trivia _ body => do
      let kept ← (ctx.keeps (← get).lastWasTrivia body).mapError Stop.astray
      if kept then
        let inner ← OptionT.mk (told (v.inner true))
        let d ← inner.finish.mapError Stop.broken
        modify fun a => a.addTrivia (.triviaSlot d (sep == .required))
        return rest
      else
        addSlot ctx sep
        return rest
    | _ => do
      addSlot ctx sep
      return v :: rest
  | [] => do
    addSlot ctx sep
    return []

/-- A slot. -/
def slot (sep : Separator) (vs : List Visit) : Work (List Visit) :=
  if sep = .none then return vs
  else if ctx.inTrivia then innerSlot ctx sep vs
  else outerSlot ctx sep vs

/-! ## Tokens and nodes -/

/-- A literal, a pattern or a rule on the next child. -/
def leaf (label : Option String) (term : Grammar.Term) : List Visit → Work (List Visit)
  | [] => failure
  | v :: rest =>
    if v.child.label ≠ label then failure
    else
      match term, v.child with
      | .rule id, .node _ body =>
        if body.rule = id then do
          let inner ← OptionT.mk (told (v.inner ctx.inTrivia))
          make fun a => a.merge inner
          return rest
        else failure
      | .literal text, .token _ span =>
        if span.slice? ctx.source = some text then do
          modify fun a => a.addContent (ctx.token text)
          return rest
        else failure
      | .pattern p, .token _ span =>
        match span.slice? ctx.source with
        | some text =>
          if p.takesAll text.toList then do
            modify fun a => a.addContent (ctx.token text)
            return rest
          else failure
        | none => failure
      | _, _ => failure

/-- A suppressed item, regenerated from the grammar. -/
def suppressed (slot : Separator) (label : Option String) (term : Grammar.Term) (vs : List Visit) :
    Work (List Visit) := do
  if slot ≠ .none then addSlot ctx slot
  emit ctx label term.literal? do
    modify fun a => a.addContent (regenerate ctx.style ctx.rule term)
    return vs

/-! ## Productions -/

/-- As many occurrences as there are, up to one that takes no child. -/
def repeated (once : List Visit → Work (List Visit)) (vs : List Visit) : Work (Nat × List Visit) := do
  match ← tried (once vs) with
  | none => return (0, vs)
  | some rest =>
    if rest.length < vs.length then
      let (n, left) ← repeated once rest
      return (n + 1, left)
    else return (1, rest)
termination_by vs.length

/-- The same step so many times. -/
def times (once : List Visit → Work (List Visit)) : Nat → List Visit → Work (List Visit)
  | 0, vs => return vs
  | n + 1, vs => do times once n (← once vs)

/-- So many occurrences as a quantifier asks for. -/
def quantified (quantifier : Quantifier) (once : List Visit → Work (List Visit)) (vs : List Visit) :
    Work (List Visit) :=
  match quantifier with
  | .one => once vs
  | .optional => do return (← tried (once vs)).getD vs
  | .many | .some => do
    let (n, left) ← repeated once vs
    if quantifier.least ≤ n then return left else failure

mutual

/-- A term under a label. -/
def term (label : Option String) : Grammar.Term → List Visit → Work (List Visit)
  | .group ps, vs => productions ps vs
  | .rule id, vs => leaf ctx label (.rule id) vs
  | .literal text, vs => leaf ctx label (.literal text) vs
  | .pattern r, vs => leaf ctx label (.pattern r) vs
termination_by structural t => t

/-- An item: a suppressed one is regenerated, any other is looked for among the children. -/
def item : Item Grammar.Term → List Visit → Work (List Visit)
  | ⟨sep, label, t, quantifier, isSuppressed⟩, vs =>
    if isSuppressed then times (suppressed ctx sep label t) quantifier.least vs
    else
      quantified quantifier
        (fun vs => do
          let rest ← slot ctx sep vs
          emit ctx label t.literal? (term label t rest))
        vs
termination_by structural i => i

def items : List (Item Grammar.Term) → List Visit → Work (List Visit)
  | [], vs => return vs
  | i :: is, vs => do items is (← item i vs)
termination_by structural is => is

/-- All items of a production, then its last slot. -/
def production : Production Grammar.Term → List Visit → Work (List Visit)
  | ⟨is, trailing⟩, vs => do slot ctx trailing (← items is vs)
termination_by structural p => p

/-- The first production that fits. -/
def productions : List (Production Grammar.Term) → List Visit → Work (List Visit)
  | [], _ => failure
  | p :: ps, vs => do
    match ← tried (production p vs) with
    | some rest => return rest
    | none => productions ps vs
termination_by structural ps => ps

end

/-! ## Nodes -/

/-- One production that has to take all children, between the directives at the ends of
the rule. -/
def wholly (children : List Visit) (p : Production Grammar.Term) : Work Unit := do
  boundary ctx .ruleStart
  let rest ← production ctx p children
  if rest.isEmpty then boundary ctx .ruleEnd else failure

/-- What becomes of a production, on an assembly of its own. -/
def whole (children : List Visit) (p : Production Grammar.Term) : Except Stop (Option Assembly) := do
  let (fits, a) ← (wholly ctx children p).on {}
  return fits.map fun _ => a

/-- The first production that takes all children. -/
def alternatives (children : List Visit) :
    List (Production Grammar.Term) → Except Stop (Option Assembly)
  | [] => return none
  | p :: ps => do
    match ← whole ctx children p with
    | some a => return some a
    | none => alternatives children ps

/-- A rule over children. -/
def rule (w : Walk) (id : Nat) (inTrivia : Bool) (children : List Visit) :
    Except Stop (Option Assembly) :=
  match w.grammar.rules[id]? with
  | none => throw (.astray id)
  | some r =>
    alternatives
      { grammar := w.grammar, style := w.style, source := w.source, rule := r.name
        inTrivia := inTrivia || w.grammar.isTrivia id }
      children r.productions

end Reprint.Unparse.Journal
