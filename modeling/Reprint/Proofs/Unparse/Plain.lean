import Reprint.Proofs.Assembly
import Reprint.Proofs.Style
import Reprint.Proofs.Tree
import Reprint.Proofs.Unparse.Step
import Reprint.Unparse

/-!
# The walk without a style

The default style has no directives and leaves every item in place.  So an item
is written as its slot and its term, a rule as its production, and no bracket is
ever opened: retracing a tree either yields a document or finds that the tree
does not fit, but never ends in brackets that do not nest (`closed_visit`).
-/

namespace Reprint.Unparse

/-- The walk in the default style. -/
abbrev Walk.plain (g : Grammar) (source : String) : Walk := ⟨g, {}, source⟩

/-! ## Directives -/

section Plain

variable {ctx : Context} (plain : ctx.style = {})
include plain

theorem directives_plain (side : Side) (selector : Selector) : ctx.directives side selector = [] := by
  rw [Context.directives, plain, Style.default_entryAt]

theorem boundary_plain (selector : Selector) (a : Assembly) : ctx.boundary selector a = .fits a := by
  unfold Context.boundary
  split_ifs
  · rfl
  · rw [directives_plain plain, directives_plain plain]
    rfl

theorem itemDirectives_plain (label literal : Option String) :
    ctx.itemDirectives label literal = ([], []) := by
  unfold Context.itemDirectives
  cases label <;> cases literal <;> simp [directives_plain plain]

theorem emit_plain (label literal : Option String) (content : Assembly → Walked Progress)
    (a : Assembly) : ctx.emit label literal content a = content a := by
  unfold Context.emit
  split_ifs
  · rfl
  · have place : ctx.style.treatment ctx.rule label literal = .normal := by
      rw [plain]
      exact Style.treatment_of_isBlank rfl ctx.rule label literal
    simp only [place, itemDirectives_plain plain, Context.treated]
    change (content a).andThen (fun p => .fits p) = content a
    cases content a <;> rfl

/-- Trivia is kept unless trivia was kept last. -/
theorem keeps_plain (behind : Bool) (body : Tree) : ctx.keeps behind body = .ok (!behind) := by
  rw [Context.keeps, plain]
  cases behind <;> rfl

/-- An occurrence of an item is its slot and its term. -/
theorem once_plain (i : Item Grammar.Term) (p : Progress) :
    once ctx i p = (ctx.slot i.slot p).andThen (term ctx i.label i.term) := by
  unfold once
  congr 1
  funext q
  exact emit_plain plain i.label i.term.literal? (fun a => term ctx i.label i.term (q.1, a)) q.2

end Plain

/-! ## Closed documents -/

/-- Neither the document nor that of a child that is left has an open bracket. -/
def Closed (p : Progress) : Prop :=
  p.2.frames = [] ∧ ∀ v ∈ p.1, ∀ inTrivia, (v.inner inTrivia).Holds False fun a => a.frames = []

theorem Closed.push {vs : List Visit} {a : Assembly} (closed : Closed (vs, a)) (d : Doc) (trivia : Bool) :
    Closed (vs, a.push d trivia) :=
  ⟨Assembly.frames_push.2 closed.1, closed.2⟩

theorem Closed.tail {v : Visit} {vs : List Visit} {a : Assembly} (closed : Closed (v :: vs, a)) :
    Closed (vs, a) :=
  ⟨closed.1, fun _ member => closed.2 _ (List.mem_cons_of_mem _ member)⟩

theorem Closed.inner {v : Visit} {vs : List Visit} {a : Assembly} (closed : Closed (v :: vs, a))
    (inTrivia : Bool) : (v.inner inTrivia).Holds False fun a => a.frames = [] :=
  closed.2 v List.mem_cons_self inTrivia

theorem closed_slot (ctx : Context) (sep : Separator) {p : Progress} (closed : Closed p) :
    (ctx.slot sep p).Holds False Closed := by
  obtain ⟨vs, a⟩ := p
  cases slotCase ctx a.lastWasTrivia sep vs with
  | tight => exact closed
  | blank inTrivia some blank =>
    rw [slot_of_blank inTrivia some blank]
    exact closed.tail.push _ _
  | noBlank inTrivia free =>
    rw [slot_of_noBlank inTrivia free]
    exact closed.push _ _
  | lackingBlank inTrivia free =>
    rw [slot_of_lackingBlank inTrivia free]
    trivial
  | kept outside some same wanted =>
    rw [slot_of_kept outside some same wanted]
    refine (closed.inner true).andThen fun inner shut => ?_
    rw [Assembly.finish_eq_ok.2 ⟨shut, rfl⟩]
    exact closed.tail.push _ _
  | dropped outside some same unwanted =>
    rw [slot_of_dropped outside some same unwanted]
    exact closed.tail.push _ _
  | unnamed outside some same unnamed =>
    rw [slot_of_unnamed outside some same unnamed]
    trivial
  | noTrivia outside some free =>
    rw [slot_of_noTrivia outside some free]
    exact closed.push _ _

theorem closed_leaf (ctx : Context) (label : Option String) (t : Grammar.Term) {p : Progress}
    (closed : Closed p) : (ctx.leaf label t p).Holds False Closed := by
  obtain ⟨vs, a⟩ := p
  cases leafCase ctx label t vs with
  | missing other =>
    rw [leaf_of_missing other]
    trivial
  | token same found read =>
    rw [leaf_of_token same found read]
    exact closed.tail.push _ _
  | node same =>
    rw [leaf_of_node same]
    refine (closed.inner ctx.inTrivia).andThen fun inner shut => ?_
    obtain ⟨b, merged, brackets⟩ := a.exists_merge shut
    rw [merged]
    refine ⟨?_, closed.tail.2⟩
    rw [← Assembly.brackets_eq_nil, brackets, Assembly.brackets_eq_nil]
    exact closed.1

section Parts

variable {w : Walk} {P : Child → Prop}
  (rule : ∀ id inTrivia children, (∀ c ∈ children, P c) → Closed (w.visits children, {}) →
    (w.rule id inTrivia (w.visits children)).Holds False fun a => a.frames = [])
include rule

theorem closed_node_of_visit {body : Tree} (parts : ∀ x ∈ body.parts, P x)
    (inner : ∀ c ∈ body.children, (∀ x ∈ c.parts, P x) → ∀ inTrivia,
      ((w.visit c).inner inTrivia).Holds False fun a => a.frames = []) (inTrivia : Bool) :
    (w.node body inTrivia).Holds False fun a => a.frames = [] := by
  obtain ⟨id, span, children⟩ := body
  have within : ∀ c ∈ children, ∀ x ∈ c.parts, P x := by
    intro c member x part
    exact parts x (Node.mem_parts.2 ⟨c, member, part⟩)
  rw [Walk.node]
  refine rule id inTrivia children (fun c member => within c member c c.mem_parts_self) ⟨rfl, ?_⟩
  rw [visits_eq_map]
  exact List.forall_mem_map.2 fun c member => inner c member (within c member)

/-- No bracket is left open in a tree if none is left open in a rule whose children
leave none open, where all parts of the tree are known to be of a certain kind. -/
theorem closed_visit_of_rule (c : Child) (parts : ∀ x ∈ c.parts, P x) (inTrivia : Bool) :
    ((w.visit c).inner inTrivia).Holds False fun a => a.frames = [] := by
  induction c generalizing inTrivia with
  | token label span => trivial
  | node label body ih =>
    rw [Child.parts_eq_cons rfl] at parts
    exact closed_node_of_visit rule (List.forall_mem_cons.1 parts).2 ih inTrivia
  | trivia label body ih =>
    rw [Child.parts_eq_cons rfl] at parts
    exact closed_node_of_visit rule (List.forall_mem_cons.1 parts).2 ih inTrivia

theorem closed_node_of_rule (body : Tree) (parts : ∀ x ∈ body.parts, P x) (inTrivia : Bool) :
    (w.node body inTrivia).Holds False fun a => a.frames = [] :=
  closed_node_of_visit rule parts (fun c _ parts => closed_visit_of_rule rule c parts) inTrivia

end Parts

/-- No step of the walk leaves a bracket open. -/
theorem stable_closed {ctx : Context} (plain : ctx.style = {}) :
    Stable ctx (fun _ => True) (fun _ => True) False Closed where
  slot sep _ p closed := closed_slot ctx sep closed
  leaf label t _ p closed := closed_leaf ctx label t closed
  direct _ side selector d member := by
    rw [directives_plain plain] at member
    cases member
  normal _ label literal := by
    rw [plain]
    exact Style.treatment_of_isBlank rfl ctx.rule label literal

theorem drawn_of_unsuppressed {ps : List (Production Grammar.Term)}
    (shown : Throughout (fun p => ∀ i ∈ p.items, i.suppressed = false) ps) :
    Throughout (Drawn (fun _ => True) fun _ => True) ps := by
  intro p member
  refine ⟨trivial, fun i item => ⟨shown p member i item, trivial, fun _ _ => trivial⟩⟩

section Closed

variable {g : Grammar} (unsuppressed : g.Unsuppressed) (source : String)
include unsuppressed

/-- A rule over children leaves no bracket open if their trees leave none. -/
theorem closed_whole {id : Nat} {r : Rule Grammar.Term} (found : g.rules[id]? = some r)
    {inTrivia : Bool} {children : List Visit} (closed : Closed (children, {}))
    {p : Production Grammar.Term} (member : p ∈ r.productions) :
    (whole ((Walk.plain g source).context r.name inTrivia) children p).Holds False
      fun a => a.frames = [] := by
  have drawn := drawn_of_unsuppressed (unsuppressed.of_getElem? found)
  exact ((stable_closed rfl).whole member drawn closed).mono fun _ held => held.1

theorem closed_rule (id : Nat) (inTrivia : Bool) {children : List Visit} (closed : Closed (children, {})) :
    ((Walk.plain g source).rule id inTrivia children).Holds False fun a => a.frames = [] := by
  unfold Walk.rule
  split
  · trivial
  · next r found =>
    have drawn := drawn_of_unsuppressed (unsuppressed.of_getElem? found)
    exact ((stable_closed rfl).alternatives drawn closed).mono fun _ held => held.1

/-- Retracing the tree of a child leaves no bracket open and closes none that is
not open. -/
theorem closed_visit (c : Child) (inTrivia : Bool) :
    (((Walk.plain g source).visit c).inner inTrivia).Holds False fun a => a.frames = [] :=
  closed_visit_of_rule (P := fun _ => True)
    (fun id inTrivia _ _ closed => closed_rule unsuppressed source id inTrivia closed) c
    (fun _ _ => trivial) inTrivia

theorem closed_visits (children : List Child) : Closed ((Walk.plain g source).visits children, {}) := by
  refine ⟨rfl, ?_⟩
  rw [visits_eq_map]
  exact List.forall_mem_map.2 fun c _ => closed_visit unsuppressed source c

end Closed

/-! ## Unparsing -/

theorem raw_of_known {u : Unparser} {rule source : String} {tree : Tree}
    (known : u.grammar.ruleId? rule = some tree.rule) :
    u.raw rule tree source = match Walk.node ⟨u.grammar, u.style, source⟩ tree false with
      | .fits a => a.finish.mapError .nesting
      | .misfit | .astray _ => .error (.mismatch rule)
      | .broken e => .error (.nesting e) := by
  simp only [Unparser.raw, Unparser.raw?, known, ne_eq, not_true_eq_false, if_false]
  cases Walk.node ⟨u.grammar, u.style, source⟩ tree false <;> rfl

/-- Under another rule a tree is not looked at. -/
theorem raw_of_unknown {u : Unparser} {rule source : String} {tree : Tree}
    (other : u.grammar.ruleId? rule ≠ some tree.rule) :
    u.raw rule tree source = match u.grammar.ruleId? rule with
      | none => .error (.unknownRule rule)
      | some _ => .error (.mismatch rule) := by
  unfold Unparser.raw Unparser.raw?
  cases found : u.grammar.ruleId? rule with
  | none => rfl
  | some id =>
    have different : tree.rule ≠ id := fun same => other (by rw [found, same])
    simp only [if_pos different, Option.getD_some]

/-! ## Making an unparser -/

theorem lostInItems?_eq_none {is : List (Item Grammar.Term)} (kept : ∀ i ∈ is, lostItem? i = none) :
    lostInItems? is = none := by
  induction is with
  | nil => rfl
  | cons i is ih =>
    obtain ⟨first, others⟩ := List.forall_mem_cons.1 kept
    rw [lostInItems?, first, ih others]
    rfl

theorem lostInProductions?_eq_none {ps : List (Production Grammar.Term)}
    (kept : ∀ p ∈ ps, ∀ i ∈ p.items, lostItem? i = none) : lostInProductions? ps = none := by
  induction ps with
  | nil => rfl
  | cons p ps ih =>
    obtain ⟨first, others⟩ := List.forall_mem_cons.1 kept
    obtain ⟨is, trailing⟩ := p
    rw [lostInProductions?, lostInProduction?, lostInItems?_eq_none first, ih others]
    rfl

/-- An item that is not suppressed is lost only if one inside its term is. -/
theorem lostItem?_eq {i : Item Grammar.Term} (shown : i.suppressed = false) :
    lostItem? i = lostInTerm? i.term := by
  obtain ⟨slot, label, t, quantifier, suppressed⟩ := i
  obtain rfl : suppressed = false := shown
  rfl

theorem lostInTerm?_eq_none (t : Grammar.Term)
    (shown : Throughout (fun p => ∀ i ∈ p.items, i.suppressed = false) t.productions) :
    lostInTerm? t = none := by
  induction t using Term.inductionOn with
  | rule id => rfl
  | literal text => rfl
  | pattern p => rfl
  | group ps ih =>
    rw [lostInTerm?]
    refine lostInProductions?_eq_none fun p member i inside => ?_
    obtain ⟨own, inner⟩ := shown.of_mem member
    rw [lostItem?_eq (own i inside)]
    exact ih p member i inside (inner i inside)

/-- A grammar without suppressed items goes together with the default style. -/
theorem make_plain {g : Grammar} (unsuppressed : g.Unsuppressed) :
    Unparser.make g {} = .ok ⟨g, {}⟩ := by
  have kept : g.lost? = none := by
    rw [Grammar.lost?, List.findSome?_eq_none_iff]
    intro r member
    have own : lostInTerm? (.group r.productions) = none :=
      lostInTerm?_eq_none (.group r.productions) (unsuppressed r member)
    rw [lostInTerm?] at own
    rw [own]
    rfl
  simp only [Unparser.make, kept]

end Reprint.Unparse
