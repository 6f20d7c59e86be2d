import Reprint.Proofs.Unparse.Step

/-!
# Along the children

The walk takes the children of a node in order, so what can be said of its progress
is a relation between the children that it has taken and the document so far.
`Carried` lists what the walk does with the next child: it passes a slot in which
nothing stands, takes blank text, keeps or drops trivia, writes a token or merges
the document of a node.  A relation that all of these keep holds of a whole node
and its children (`holds_node`).
-/

namespace Reprint.Unparse

/-- A relation between the children that have been taken and the document so far
that is kept whatever the walk does next.  Each of the steps may use what it found. -/
structure Carried (w : Walk) (rule : String) (inTrivia : Bool) (slots : Separator → Prop)
    (refs : Nat → Prop) (children : List Child) (R : List Child → Assembly → Prop) : Prop where
  /-- Nothing stands in a slot. -/
  empty : ∀ {sep : Separator} {front : List Child} {a : Assembly}, sep ≠ .none → slots sep → R front a →
    R front (a.addControl (w.style.usualSlot rule sep))
  /-- Blank text stands in a slot inside trivia. -/
  blank : ∀ {sep : Separator} {front rest : List Child} {span : Span} {a : Assembly}, inTrivia →
    sep ≠ .none → slots sep → children = front ++ .token none span :: rest →
    (w.context rule inTrivia).isBlankToken (.token none span) → R front a →
    R (front ++ [.token none span]) (a.addControl (w.style.usualSlot rule sep))
  /-- Trivia stands in a slot and is kept. -/
  kept : ∀ {sep : Separator} {front rest : List Child} {label : Option String} {body : Tree}
    {a inner : Assembly} {d : Doc}, inTrivia = false → sep ≠ .none →
    children = front ++ .trivia label body :: rest → w.node body true = .fits inner →
    inner.finish = .ok d → R front a →
    R (front ++ [.trivia label body]) (a.addTrivia (.triviaSlot d (sep == .required)))
  /-- Trivia stands in a slot and is dropped. -/
  dropped : ∀ {sep : Separator} {front rest : List Child} {label : Option String} {body : Tree}
    {a : Assembly}, inTrivia = false → sep ≠ .none → slots sep →
    children = front ++ .trivia label body :: rest →
    (w.context rule inTrivia).keeps a.lastWasTrivia body = .ok false → R front a →
    R (front ++ [.trivia label body]) (a.addControl (w.style.usualSlot rule sep))
  /-- A literal or a pattern finds its text. -/
  token : ∀ {front rest : List Child} {label : Option String} {span : Span} {text : String}
    {a : Assembly}, children = front ++ .token label span :: rest →
    span.slice? w.source = some text → R front a →
    R (front ++ [.token label span]) (a.addContent ((w.context rule inTrivia).token text))
  /-- A rule finds its node. -/
  node : ∀ {front rest : List Child} {label : Option String} {body : Tree} {a inner b : Assembly},
    children = front ++ .node label body :: rest → refs body.rule →
    w.node body inTrivia = .fits inner → a.merge inner = .ok b → R front a →
    R (front ++ [.node label body]) b
  /-- A directive is carried out. -/
  direct : inTrivia = false → ∀ {side : Side} {selector : Selector} {d : Directive}
    {front : List Child} {a b : Assembly}, d ∈ (w.context rule inTrivia).directives side selector →
    Context.direct side true a d = .ok b → R front a → R front b
  /-- No item is left out or replaced. -/
  normal : inTrivia = false → ∀ label literal, w.style.treatment rule label literal = .normal

/-- Some children have been taken, and the others are left. -/
def Along (w : Walk) (children : List Child) (R : List Child → Assembly → Prop) (p : Progress) : Prop :=
  ∃ front rest, children = front ++ rest ∧ p.1 = w.visits rest ∧ R front p.2

section Steps

variable {w : Walk} {rule : String} {inTrivia : Bool} {slots : Separator → Prop} {refs : Nat → Prop}
  {children : List Child} {R : List Child → Assembly → Prop}

/-- The next child has been taken. -/
theorem Along.next {front rest : List Child} {c : Child} {a : Assembly}
    (split : children = front ++ c :: rest) (holds : R (front ++ [c]) a) :
    Along w children R (w.visits rest, a) :=
  ⟨front ++ [c], rest, by rw [split, List.append_cons], rfl, holds⟩

namespace Carried

variable (carried : Carried w rule inTrivia slots refs children R)
include carried

theorem addSlot {sep : Separator} (some : sep ≠ .none) (slot : slots sep) {p : Progress}
    (along : Along w children R p) :
    Along w children R (p.1, (w.context rule inTrivia).addSlot sep p.2) := by
  obtain ⟨front, rest, split, left, holds⟩ := along
  exact ⟨front, rest, split, left, carried.empty some slot holds⟩

theorem slot {sep : Separator} (slot : slots sep) {p : Progress} (along : Along w children R p) :
    ((w.context rule inTrivia).slot sep p).Holds True (Along w children R) := by
  obtain ⟨vs, a⟩ := p
  have slotted (some : sep ≠ .none) := carried.addSlot some slot along
  have ⟨front, rest, split, left, holds⟩ := along
  cases slotCase (w.context rule inTrivia) a.lastWasTrivia sep vs with
  | tight => exact along
  | blank inside some blank =>
    rw [slot_of_blank inside some blank]
    obtain ⟨c, cs, rfl, rfl, rfl⟩ := visits_eq_cons.1 left.symm
    rw [child_visit] at blank
    cases c with
    | node | trivia => cases blank
    | token label span =>
      -- Blank text in a slot has no label.
      cases label with
      | some => cases blank
      | none => exact .next split (carried.blank inside some slot split blank holds)
  | noBlank inside free =>
    rw [slot_of_noBlank inside free]
    exact slotted nofun
  | lackingBlank inside free =>
    rw [slot_of_lackingBlank inside free]
    trivial
  | kept outside some same wanted =>
    rw [slot_of_kept outside some same wanted]
    obtain ⟨c, cs, rfl, rfl, rfl⟩ := visits_eq_cons.1 left.symm
    obtain rfl := (child_visit w c).symm.trans same
    refine Walked.holds_andThen fun inner walked => ?_
    refine (holds_ofExcept fun d finished => ?_).map fun _ held => held
    exact .next split (carried.kept outside some split walked finished holds)
  | dropped outside some same unwanted =>
    rw [slot_of_dropped outside some same unwanted]
    obtain ⟨c, cs, rfl, rfl, rfl⟩ := visits_eq_cons.1 left.symm
    obtain rfl := (child_visit w c).symm.trans same
    exact .next split (carried.dropped outside some slot split unwanted holds)
  | unnamed outside some same unnamed =>
    rw [slot_of_unnamed outside some same unnamed]
    trivial
  | noTrivia outside some free =>
    rw [slot_of_noTrivia outside some free]
    exact slotted some

theorem leaf (label : Option String) (t : Grammar.Term) (known : ∀ id, t = .rule id → refs id)
    {p : Progress} (along : Along w children R p) :
    ((w.context rule inTrivia).leaf label t p).Holds True (Along w children R) := by
  obtain ⟨vs, a⟩ := p
  obtain ⟨front, rest, split, left, holds⟩ := along
  cases leafCase (w.context rule inTrivia) label t vs with
  | missing other =>
    rw [leaf_of_missing other]
    trivial
  | token same found read =>
    rw [leaf_of_token same found read]
    obtain ⟨c, cs, rfl, rfl, rfl⟩ := visits_eq_cons.1 left.symm
    obtain rfl := (child_visit w c).symm.trans same
    exact .next split (carried.token split found holds)
  | node same =>
    rw [leaf_of_node same]
    obtain ⟨c, cs, rfl, rfl, rfl⟩ := visits_eq_cons.1 left.symm
    obtain rfl := (child_visit w c).symm.trans same
    refine Walked.holds_andThen fun inner walked => ?_
    refine (holds_ofExcept fun b merged => ?_).map fun _ held => held
    exact .next split (carried.node split (known _ rfl) walked merged holds)

/-- Inside a rule every step of the walk keeps the relation. -/
theorem stable : Stable (w.context rule inTrivia) slots refs True (Along w children R) where
  slot sep slot p along := carried.slot slot along
  leaf label t known p along := carried.leaf label t known along
  direct outside side selector d member rest a along := by
    refine holds_ofExcept fun b done => ?_
    obtain ⟨front, rest', split, left, holds⟩ := along
    exact ⟨front, rest', split, left, carried.direct outside member done holds⟩
  normal outside := carried.normal outside

end Carried

end Steps

/-- What is carried along the children of a node holds of its document and all of them. -/
theorem holds_node {w : Walk} {body : Tree} {inTrivia : Bool} {R : List Child → Assembly → Prop}
    (start : R [] {})
    (carried : ∀ r, w.grammar.rules[body.rule]? = some r → ∃ slots refs,
      Carried w r.name (inTrivia || w.grammar.isTrivia body.rule) slots refs body.children R ∧
        Throughout (Drawn slots refs) r.productions) :
    (w.node body inTrivia).Holds True (R body.children) := by
  obtain ⟨id, span, children⟩ := body
  rw [Walk.node, Walk.rule]
  split
  · trivial
  · next r found =>
    obtain ⟨slots, refs, keeps, drawn⟩ := carried r found
    have begun : Along w children R (w.visits children, {}) := ⟨[], children, rfl, rfl, start⟩
    refine (keeps.stable.alternatives drawn begun).mono ?_
    rintro a ⟨front, rest, rfl, none, holds⟩
    have all : rest = [] := by simpa [visits_eq_map] using none.symm
    rw [all, List.append_nil]
    exact holds

end Reprint.Unparse
