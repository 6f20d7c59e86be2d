import Reprint.Parse.Attempt
import Reprint.Text.Blank

/-!
# Matching the parts of a grammar

Productions are tried in order, and repetitions take as many occurrences as they
can.  The functions follow the shape of a production; `call` stands for the
matching of whole rules.  A repetition ends with an occurrence that takes no
text, so what may match nothing does not repeat for ever.
-/

namespace Reprint.Matching

/-- The children that a match leaves, and the place behind it. -/
abbrev Found := List Child × Cursor

/-- What matching inside one rule depends on. -/
structure Context where
  grammar : Grammar
  /-- Matches a rule at a place, inside or outside trivia. -/
  call : Nat → Bool → RuleStack → Cursor → Attempted (Tree × Cursor)
  stack : RuleStack
  inTrivia : Bool

namespace Context

variable (ctx : Context)

/-- Fails because something was not found at a place. -/
def missing {α : Type} (what : Expected) (c : Cursor) : Attempted α :=
  .miss ⟨c.offset, what, ctx.stack⟩

/-- A slot in which nothing stands. -/
def emptySlot (sep : Separator) (c : Cursor) : Attempted Found :=
  if sep = .required then ctx.missing .blanks c else .succeed ([], c)

/-- A slot.  Outside trivia it takes what the trivia rule matches, and anything
goes if there is no such rule; inside trivia it takes blanks. -/
def slot (sep : Separator) (c : Cursor) : Attempted Found :=
  if sep = .none then .succeed ([], c)
  else if ctx.inTrivia then
    let d := c.advance (c.rest.takeWhile Text.isBlank).length
    if c.offset = d.offset then ctx.emptySlot sep c
    else .succeed ([.token none (c.spanTo d)], d)
  else
    match ctx.grammar.trivia with
    | none => .succeed ([], c)
    | some rule =>
      (ctx.call rule true ctx.stack c).quiet.proceed fun
        | some (tree, d) =>
          if tree.span.isEmpty then ctx.emptySlot sep c
          else .succeed ([.trivia none tree], d)
        | none => ctx.emptySlot sep c

/-- A literal. -/
def literal (label : Option String) (text : String) (c : Cursor) : Attempted Found :=
  if text.toList.isPrefixOf c.rest then
    let d := c.advance text.toList.length
    .succeed ([.token label (c.spanTo d)], d)
  else ctx.missing (.literal text) c

/-- A pattern. -/
def pattern (label : Option String) (p : Pattern) (c : Cursor) : Attempted Found :=
  match p.taken? c.rest with
  | some count =>
    let d := c.advance count
    .succeed ([.token label (c.spanTo d)], d)
  | none => ctx.missing (.pattern p) c

end Context

/-- As many occurrences as there are, up to one that takes no text: their
number, their children and the place behind them. -/
def repeated (once : Cursor → Attempted Found) (c : Cursor) : Attempted (Nat × Found) :=
  (once c).proceed fun
    | none => .succeed (0, [], c)
    | some (children, d) =>
      if d.rest.length < c.rest.length then
        (repeated once d).map fun (n, more, e) => (n + 1, children ++ more, e)
      else .succeed (1, children, d)
termination_by c.rest.length

/-- So many occurrences as a quantifier asks for. -/
def quantified (quantifier : Quantifier) (once : Cursor → Attempted Found) (c : Cursor) :
    Attempted Found :=
  match quantifier with
  | .one => once c
  | .optional => (once c).orElse fun _ => .succeed ([], c)
  | .many | .some =>
    (repeated once c).andThen fun (count, found) =>
      if quantifier.least ≤ count then .succeed found else .fail

variable (ctx : Context)

mutual

/-- What a term matches, under a label. -/
def term (label : Option String) : Grammar.Term → Cursor → Attempted Found
  | .rule id, c =>
    (ctx.call id ctx.inTrivia ctx.stack c).map fun (tree, d) => ([.node label tree], d)
  | .literal text, c => ctx.literal label text c
  | .pattern p, c => ctx.pattern label p c
  | .group ps, c => productions ps c
termination_by structural t => t

/-- An item.  Each occurrence takes its slot, and a suppressed one leaves no children. -/
def item : Item Grammar.Term → Cursor → Attempted Found
  | ⟨slot, label, t, quantifier, suppressed⟩, c =>
    quantified quantifier
      (fun c =>
        (ctx.slot slot c).andThen fun (before, d) =>
          (term label t d).map fun (children, e) =>
            (if suppressed then [] else before ++ children, e))
      c
termination_by structural i => i

def items : List (Item Grammar.Term) → Cursor → Attempted Found
  | [], c => .succeed ([], c)
  | i :: is, c =>
    (item i c).andThen fun (children, d) =>
      (items is d).map fun (more, e) => (children ++ more, e)
termination_by structural is => is

/-- All items of a production, then its last slot. -/
def production : Production Grammar.Term → Cursor → Attempted Found
  | ⟨is, trailing⟩, c =>
    (items is c).andThen fun (children, d) =>
      (ctx.slot trailing d).map fun (more, e) => (children ++ more, e)
termination_by structural p => p

/-- The first production that matches. -/
def productions : List (Production Grammar.Term) → Cursor → Attempted Found
  | [], _ => .fail
  | p :: ps, c => (production p c).orElse fun _ => productions ps c
termination_by structural ps => ps

end

/-! ## Rules -/

/-- Matches a rule at a place, if rules do not nest deeper than `depth`. -/
def rule (g : Grammar) (depth : Nat) (id : Nat) (inTrivia : Bool) (stack : RuleStack) (c : Cursor) :
    Attempted (Tree × Cursor) :=
  match depth with
  | 0 => none
  | depth + 1 =>
    match g.rules[id]? with
    | none => .fail
    | some r =>
      let ctx : Context :=
        { grammar := g, call := rule g depth, stack := (id, c.offset) :: stack
          inTrivia := inTrivia || g.isTrivia id }
      (productions ctx r.productions c).map fun (children, d) =>
        (⟨id, c.spanTo d, children⟩, d)

end Reprint.Matching
