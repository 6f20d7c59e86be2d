import Mathlib.Data.List.Forall2
import Reprint.Proofs.Unparse.Charting
import Reprint.Proofs.Unparse.Plain

/-!
# Walks in two styles

Whether the children of a node fit a production is decided by their labels, texts
and rules, and a style has no say in it: it decides what is written, and whether
brackets nest.  So the walks in two styles take the same children at each step, as
long as brackets nest in both (`alike_node`).

Trivia is the one exception.  A style that drops it does not look into it, so it has
to be known that what stands in slots can be retraced.
-/

namespace Reprint.Unparse

/-! ## Outcomes -/

namespace Walked

variable {α β γ δ : Type} {R : α → β → Prop} {S : γ → δ → Prop}

/-- Two outcomes are both fits, with results that are related, or both misfits, or both go
astray, unless brackets do not nest in one of them. -/
def Alike (R : α → β → Prop) : Walked α → Walked β → Prop
  | .broken _, _ | .fits _, .broken _ | .misfit, .broken _ | .astray _, .broken _ => True
  | .fits a, .fits b => R a b
  | .misfit, .misfit => True
  | .astray _, .astray _ => True
  | .fits _, .misfit | .fits _, .astray _ => False
  | .misfit, .fits _ | .misfit, .astray _ => False
  | .astray _, .fits _ | .astray _, .misfit => False

@[simp] theorem alike_broken (x : Walked α) (e : NestingError) : x.Alike R (.broken e : Walked β) := by
  cases x <;> trivial

theorem Alike.andThen {x : Walked α} {y : Walked β} {f : α → Walked γ} {h : β → Walked δ}
    (first : x.Alike R y) (next : ∀ a b, R a b → (f a).Alike S (h b)) :
    (x.andThen f).Alike S (y.andThen h) := by
  cases x with
  | broken e => trivial
  | misfit | astray =>
    cases y with
    | fits => exact first.elim
    | misfit | astray => exact first
    | broken => trivial
  | fits a =>
    cases y with
    | fits b => exact next a b first
    | misfit | astray => exact first.elim
    | broken e => exact alike_broken _ e

theorem Alike.map {x : Walked α} {y : Walked β} {f : α → γ} {h : β → δ} (first : x.Alike R y)
    (next : ∀ a b, R a b → S (f a) (h b)) : (x.map f).Alike S (y.map h) :=
  first.andThen next

theorem Alike.orElse {x : Walked α} {y : Walked β} {f : Unit → Walked α} {h : Unit → Walked β}
    (first : x.Alike R y) (second : (f ()).Alike R (h ())) : (x.orElse f).Alike R (y.orElse h) := by
  cases x with
  | broken e => trivial
  | misfit =>
    cases y with
    | fits | astray => exact first.elim
    | misfit => exact second
    | broken e => exact alike_broken _ e
  | fits | astray =>
    cases y with
    | misfit => exact first.elim
    | fits | astray | broken => exact first

/-- A part that does not decide anything may come first on one side only. -/
theorem alike_andThen_left {x : Walked γ} {f : γ → Walked α} {y : Walked β} (sure : x.Sure)
    (next : ∀ c, (f c).Alike R y) : (x.andThen f).Alike R y := by
  cases x with
  | fits c => exact next c
  | misfit | astray => exact sure.elim
  | broken e => trivial

theorem alike_andThen_right {x : Walked α} {y : Walked γ} {h : γ → Walked β} (sure : y.Sure)
    (next : ∀ c, x.Alike R (h c)) : x.Alike R (y.andThen h) := by
  cases y with
  | fits c => exact next c
  | misfit | astray => exact sure.elim
  | broken e => exact alike_broken x e

theorem alike_of_sure {x : Walked α} {y : Walked β} (sureX : x.Sure) (sureY : y.Sure) :
    x.Alike (fun _ _ => True) y := by
  cases x <;> cases y <;> trivial

/-- What is alike a fit is sure. -/
theorem Alike.sure_right {a : α} {y : Walked β} (alike : (fits a).Alike R y) : y.Sure := by
  cases y with
  | fits | broken => trivial
  | misfit | astray => exact alike.elim

theorem Alike.sure_left {x : Walked α} {b : β} (alike : x.Alike R (fits b)) : x.Sure := by
  cases x with
  | fits | broken => trivial
  | misfit | astray => exact alike.elim

end Walked

/-! ## Children -/

/-- One child with its own tree retraced in two ways that are alike; trivia is
retraced in either, and its nodes are of rules in the table. -/
structure Visit.Alike (g : Grammar) (v u : Visit) : Prop where
  child : v.child = u.child
  inner : ∀ inTrivia, (v.inner inTrivia).Alike (fun _ _ => True) (u.inner inTrivia)
  accepted : v.child.isTrivia → (v.inner true).Sure ∧ (u.inner true).Sure
  named : ∀ body ∈ v.child.trivia?, ∀ c ∈ body.children, ∀ inner ∈ c.node?,
    inner.rule < g.rules.length

/-- The same children are left, whatever the documents are. -/
def Level (g : Grammar) (p q : Progress) : Prop := List.Forall₂ (Visit.Alike g) p.1 q.1

/-- The walk in the same rule in another style. -/
abbrev Context.restyle (ctx : Context) (style : Style) : Context := { ctx with style }

/-! ## Slots -/

section Steps

variable {ctx : Context} {style : Style} {vs us : List Visit} {a b : Assembly}

/-- Trivia is taken, whether or not it is kept. -/
theorem exists_slot_of_trivia (ctx : Context) {sep : Separator} (outside : ctx.inTrivia = false)
    (some : sep ≠ .none) {v : Visit} {label : Option String} {body : Tree}
    (same : v.child = .trivia label body) (accepted : (v.inner true).Sure)
    (named : ∀ c ∈ body.children, ∀ inner ∈ c.node?, inner.rule < ctx.grammar.rules.length)
    (vs : List Visit) (a : Assembly) :
    ∃ x : Walked Assembly, x.Sure ∧ ctx.slot sep (v :: vs, a) = x.map fun b => (vs, b) := by
  cases wanted : ctx.keeps a.lastWasTrivia body with
  | error id =>
    rw [keeps_of_named named] at wanted
    cases wanted
  | ok kept =>
    cases kept with
    | false => exact ⟨.fits _, trivial, slot_of_dropped outside some same wanted⟩
    | true =>
      refine ⟨(v.inner true).andThen fun inner => (Walked.ofExcept inner.finish).map fun d =>
        a.addTrivia (.triviaSlot d (sep == .required)), ?_, ?_⟩
      · exact accepted.andThen fun inner => (Walked.sure_ofExcept _).andThen fun _ => trivial
      · rw [slot_of_kept outside some same wanted]
        cases v.inner true with
        | misfit | astray | broken => rfl
        | fits inner =>
          simp only [Walked.map, Walked.andThen]
          cases inner.finish <;> rfl

theorem Level.forall_head {g : Grammar} (level : Level g (vs, a) (us, b)) (P : Child → Prop)
    (holds : ∀ v ∈ vs.head?, P v.child) : ∀ u ∈ us.head?, P u.child := by
  cases level with
  | nil => exact nofun
  | cons alike rest =>
    rintro u ⟨⟩
    exact alike.child ▸ holds _ rfl

theorem alike_slot (sep : Separator) {p q : Progress} (level : Level ctx.grammar p q) :
    (ctx.slot sep p).Alike (Level ctx.grammar) ((ctx.restyle style).slot sep q) := by
  obtain ⟨vs, a⟩ := p
  obtain ⟨us, b⟩ := q
  have trivia {v u : Visit} {vs us : List Visit} {label : Option String} {body : Tree}
      (outside : ctx.inTrivia = false) (some : sep ≠ .none) (same : v.child = .trivia label body)
      (alike : v.Alike ctx.grammar u) (rest : List.Forall₂ (Visit.Alike ctx.grammar) vs us) :
      (ctx.slot sep (v :: vs, a)).Alike (Level ctx.grammar)
        ((ctx.restyle style).slot sep (u :: us, b)) := by
    have same' := alike.child.symm.trans same
    have named := alike.named body (by rw [same]; rfl)
    obtain ⟨acceptedV, acceptedU⟩ := alike.accepted (by rw [same]; rfl)
    obtain ⟨x, sureX, left⟩ := exists_slot_of_trivia ctx outside some same acceptedV named vs a
    obtain ⟨y, sureY, right⟩ :=
      exists_slot_of_trivia (ctx.restyle style) outside some same' acceptedU named us b
    rw [left, right]
    exact Walked.alike_andThen_left sureX fun a => Walked.alike_andThen_right sureY fun b => rest
  cases slotCase ctx a.lastWasTrivia sep vs with
  | tight => exact level
  | blank inTrivia some blank =>
    cases level with
    | @cons v u vs us alike rest =>
      have right : (ctx.restyle style).slot sep (u :: us, b) = .fits (us, _) :=
        slot_of_blank inTrivia some (alike.child ▸ blank)
      rw [slot_of_blank inTrivia some blank, right]
      exact rest
  | noBlank inTrivia free =>
    have right : (ctx.restyle style).slot .allowed (us, b) = .fits (us, _) :=
      slot_of_noBlank inTrivia (level.forall_head (ctx.isBlankToken · = false) free)
    rw [slot_of_noBlank inTrivia free, right]
    exact level
  | lackingBlank inTrivia free =>
    have right : (ctx.restyle style).slot .required (us, b) = .misfit :=
      slot_of_lackingBlank inTrivia (level.forall_head (ctx.isBlankToken · = false) free)
    rw [slot_of_lackingBlank inTrivia free, right]
    trivial
  | kept outside some same | dropped outside some same | unnamed outside some same =>
    cases level with
    | cons alike rest => exact trivia outside some same alike rest
  | noTrivia outside some free =>
    have right : (ctx.restyle style).slot sep (us, b) = .fits (us, _) :=
      slot_of_noTrivia outside some (level.forall_head (·.isTrivia = false) free)
    rw [slot_of_noTrivia outside some free, right]
    exact level

/-! ## Items -/

theorem alike_leaf (label : Option String) (t : Grammar.Term) {p q : Progress} (level : Level ctx.grammar p q) :
    (ctx.leaf label t p).Alike (Level ctx.grammar) ((ctx.restyle style).leaf label t q) := by
  obtain ⟨vs, a⟩ := p
  obtain ⟨us, b⟩ := q
  cases leafCase ctx label t vs with
  | missing other =>
    have right : (ctx.restyle style).leaf label t (us, b) = .misfit :=
      leaf_of_missing (level.forall_head (fun c => ¬ Meets ctx.source label t c) other)
    rw [leaf_of_missing other, right]
    trivial
  | token same found read =>
    cases level with
    | @cons v u vs us alike rest =>
      have right : (ctx.restyle style).leaf label t (u :: us, b) = .fits (us, _) :=
        leaf_of_token (alike.child.symm.trans same) found read
      rw [leaf_of_token same found read, right]
      exact rest
  | node same =>
    cases level with
    | cons alike rest =>
      rw [leaf_of_node same, leaf_of_node (alike.child.symm.trans same)]
      refine (alike.inner ctx.inTrivia).andThen fun c d _ => ?_
      refine Walked.alike_andThen_left (Walked.sure_ofExcept _) fun a => ?_
      exact Walked.alike_andThen_right (Walked.sure_ofExcept _) fun b => rest

/-- What becomes of an item has no say in which children it takes. -/
theorem exists_treated (t : Treatment) (content : Assembly → Walked Progress) (a : Assembly) :
    ∃ (b : Assembly) (f : Assembly → Assembly),
      Context.treated t content a = (content b).map fun p => (p.1, f p.2) := by
  cases t with
  | normal =>
    refine ⟨a, id, ?_⟩
    unfold Context.treated
    cases content a <;> rfl
  | omitted => exact ⟨{}, fun _ => a, rfl⟩
  | replaced d => exact ⟨{}, fun _ => a.addContent d, rfl⟩

theorem alike_emit (label literal : Option String) {content other : Assembly → Walked Progress}
    (step : ∀ a b, (content a).Alike (Level ctx.grammar) (other b)) (a b : Assembly) :
    (ctx.emit label literal content a).Alike (Level ctx.grammar)
      ((ctx.restyle style).emit label literal other b) := by
  unfold Context.emit
  split_ifs
  · exact step a b
  · refine Walked.alike_andThen_left (Walked.sure_ofExcept _) fun a => ?_
    refine Walked.alike_andThen_right (Walked.sure_ofExcept _) fun b => ?_
    obtain ⟨a', f, left⟩ := exists_treated (ctx.style.treatment ctx.rule label literal) content a
    obtain ⟨b', h, right⟩ := exists_treated (style.treatment ctx.rule label literal) other b
    dsimp only
    rw [left, right]
    refine Walked.Alike.andThen (R := Level ctx.grammar) ((step a' b').map fun _ _ level => level) ?_
    rintro ⟨vs, a⟩ ⟨us, b⟩ level
    refine Walked.alike_andThen_left (Walked.sure_ofExcept _) fun a => ?_
    exact Walked.alike_andThen_right (Walked.sure_ofExcept _) fun b => level

theorem alike_suppressed (slot : Separator) (label : Option String) (t : Grammar.Term) {p q : Progress}
    (level : Level ctx.grammar p q) :
    (ctx.suppressed slot label t p).Alike (Level ctx.grammar)
      ((ctx.restyle style).suppressed slot label t q) := by
  obtain ⟨vs, a⟩ := p
  obtain ⟨us, b⟩ := q
  refine alike_emit label t.literal? (fun a b => ?_) _ _
  exact level

end Steps

/-! ## Productions -/

section Occurrences

variable {g : Grammar} {f h : Progress → Walked Progress}
  (step : ∀ p q, Level g p q → (f p).Alike (Level g) (h q))
include step

theorem alike_repeated {p q : Progress} (level : Level g p q) :
    (repeated f p).Alike (fun r s => r.1 = s.1 ∧ Level g r.2 s.2) (repeated h q) := by
  induction size : p.1.length using Nat.strongRecOn generalizing p q with
  | ind n ih =>
    subst size
    have first := step p q level
    rw [repeated, repeated]
    cases left : f p with
    | broken e => trivial
    | misfit =>
      rw [left] at first
      cases right : h q with
      | broken e => exact Walked.alike_broken _ e
      | misfit => exact ⟨rfl, level⟩
      | fits | astray =>
        rw [right] at first
        exact first.elim
    | astray =>
      rw [left] at first
      cases right : h q with
      | broken e => trivial
      | astray => trivial
      | fits | misfit =>
        rw [right] at first
        exact first.elim
    | fits p' =>
      rw [left] at first
      cases right : h q with
      | broken e => exact Walked.alike_broken _ e
      | misfit | astray =>
        rw [right] at first
        exact first.elim
      | fits q' =>
        rw [right] at first
        have here : p.1.length = q.1.length := level.length_eq
        have next : p'.1.length = q'.1.length := List.Forall₂.length_eq first
        dsimp only
        rw [← here, ← next]
        split_ifs with fewer
        · exact (ih _ fewer first rfl).map fun _ _ same => ⟨congrArg (· + 1) same.1, same.2⟩
        · exact ⟨rfl, first⟩

theorem alike_times (n : Nat) {p q : Progress} (level : Level g p q) :
    (times f n p).Alike (Level g) (times h n q) := by
  induction n generalizing p q with
  | zero => exact level
  | succ n ih => exact (step p q level).andThen fun _ _ level => ih level

theorem alike_quantified (quantifier : Quantifier) {p q : Progress} (level : Level g p q) :
    (quantified quantifier f p).Alike (Level g) (quantified quantifier h q) := by
  have many : ((repeated f p).andThen fun r =>
      if quantifier.least ≤ r.1 then .fits r.2 else .misfit).Alike (Level g)
        ((repeated h q).andThen fun r => if quantifier.least ≤ r.1 then .fits r.2 else .misfit) := by
    refine (alike_repeated step level).andThen ?_
    rintro ⟨m, p⟩ ⟨n, q⟩ ⟨same, level⟩
    obtain rfl : m = n := same
    dsimp only
    split_ifs
    · exact level
    · trivial
  cases quantifier with
  | one => exact step p q level
  | optional => exact (step p q level).orElse (f := fun _ => .fits p) (h := fun _ => .fits q) level
  | many => exact many
  | some => exact many

end Occurrences

section Productions

variable {ctx : Context} {style : Style}

theorem alike_items {is : List (Item Grammar.Term)}
    (step : ∀ i ∈ is, ∀ p q, Level ctx.grammar p q →
      (item ctx i p).Alike (Level ctx.grammar) (item (ctx.restyle style) i q))
    {p q : Progress} (level : Level ctx.grammar p q) :
    (items ctx is p).Alike (Level ctx.grammar) (items (ctx.restyle style) is q) := by
  induction is generalizing p q with
  | nil => exact level
  | cons i is ih =>
    obtain ⟨first, others⟩ := List.forall_mem_cons.1 step
    rw [items, items]
    exact (first p q level).andThen fun _ _ level => ih others level

theorem alike_productions {ps : List (Production Grammar.Term)}
    (step : ∀ p ∈ ps, ∀ q r, Level ctx.grammar q r →
      (production ctx p q).Alike (Level ctx.grammar) (production (ctx.restyle style) p r)) {q r : Progress}
    (level : Level ctx.grammar q r) :
    (productions ctx ps q).Alike (Level ctx.grammar) (productions (ctx.restyle style) ps r) := by
  induction ps with
  | nil => trivial
  | cons p ps ih =>
    obtain ⟨first, others⟩ := List.forall_mem_cons.1 step
    rw [productions, productions]
    exact (first q r level).orElse (ih others)

/-- An item takes the same children in either style if its term does. -/
theorem alike_item (i : Item Grammar.Term)
    (step : ∀ p q, Level ctx.grammar p q →
      (term ctx i.label i.term p).Alike (Level ctx.grammar) (term (ctx.restyle style) i.label i.term q))
    {p q : Progress} (level : Level ctx.grammar p q) :
    (item ctx i p).Alike (Level ctx.grammar) (item (ctx.restyle style) i q) := by
  obtain ⟨slot, label, t, quantifier, suppressed⟩ := i
  rw [item, item]
  split_ifs
  · exact alike_times (fun _ _ level => alike_suppressed slot label t level) _ level
  · refine alike_quantified (fun p q level => ?_) quantifier level
    refine (alike_slot slot level).andThen ?_
    rintro ⟨vs, a⟩ ⟨us, b⟩ level
    exact alike_emit label t.literal? (fun a b => step (vs, a) (us, b) level) a b

theorem alike_production (p : Production Grammar.Term)
    (step : ∀ i ∈ p.items, ∀ q r, Level ctx.grammar q r →
      (term ctx i.label i.term q).Alike (Level ctx.grammar) (term (ctx.restyle style) i.label i.term r))
    {q r : Progress} (level : Level ctx.grammar q r) :
    (production ctx p q).Alike (Level ctx.grammar) (production (ctx.restyle style) p r) := by
  obtain ⟨is, trailing⟩ := p
  rw [production, production]
  refine (alike_items (fun i member p q level => ?_) level).andThen fun _ _ level =>
    alike_slot trailing level
  exact alike_item i (step i member) level

theorem alike_term (t : Grammar.Term) (label : Option String) {p q : Progress} (level : Level ctx.grammar p q) :
    (term ctx label t p).Alike (Level ctx.grammar) (term (ctx.restyle style) label t q) := by
  induction t using Term.inductionOn generalizing label p q with
  | rule | literal | pattern => exact alike_leaf label _ level
  | group ps ih =>
    rw [term, term]
    refine alike_productions (fun p member q r level => ?_) level
    exact alike_production p (fun i inside q r level => ih p member i inside i.label level) level

theorem alike_whole (p : Production Grammar.Term) {vs us : List Visit}
    (alike : List.Forall₂ (Visit.Alike ctx.grammar) vs us) :
    (whole ctx vs p).Alike (fun _ _ => True) (whole (ctx.restyle style) us p) := by
  refine Walked.alike_andThen_left (sure_boundary _ _ _) fun a => ?_
  refine Walked.alike_andThen_right (sure_boundary _ _ _) fun b => ?_
  refine (alike_production p (fun i _ q r level => alike_term i.term i.label level)
    (show Level ctx.grammar (vs, a) (us, b) from alike)).andThen ?_
  rintro ⟨vs, a⟩ ⟨us, b⟩ level
  cases level with
  | nil => exact Walked.alike_of_sure (sure_boundary _ _ _) (sure_boundary _ _ _)
  | cons => trivial

theorem alike_alternatives (ps : List (Production Grammar.Term)) {vs us : List Visit}
    (alike : List.Forall₂ (Visit.Alike ctx.grammar) vs us) :
    (alternatives ctx vs ps).Alike (fun _ _ => True) (alternatives (ctx.restyle style) us ps) := by
  induction ps with
  | nil => trivial
  | cons p ps ih => exact (alike_whole p alike).orElse ih

end Productions

/-! ## Trees -/

section Trees

variable {g : Grammar} {source : String} {s t : Style}

theorem alike_node_of_children {body : Tree} (inTrivia : Bool)
    (children : ∀ c ∈ body.children,
      Visit.Alike g (Walk.visit ⟨g, s, source⟩ c) (Walk.visit ⟨g, t, source⟩ c)) :
    (Walk.node ⟨g, s, source⟩ body inTrivia).Alike (fun _ _ => True)
      (Walk.node ⟨g, t, source⟩ body inTrivia) := by
  obtain ⟨id, span, cs⟩ := body
  have alike : List.Forall₂ (Visit.Alike g) (Walk.visits ⟨g, s, source⟩ cs) (Walk.visits ⟨g, t, source⟩ cs) := by
    rw [visits_eq_map, visits_eq_map, List.forall₂_map_left_iff, List.forall₂_map_right_iff,
      List.forall₂_same]
    exact children
  rw [Walk.node, Walk.node]
  unfold Walk.rule
  dsimp only
  split
  · trivial
  · exact alike_alternatives _ alike

/-- The trees of a child are retraced in both styles or in neither, if what stands in
slots can be retraced at all. -/
theorem alike_visit (c : Child)
    (accepted : ∀ x ∈ c.parts, ∀ body ∈ x.trivia?, ∃ style a,
      Walk.node ⟨g, style, source⟩ body true = .fits a) (s t : Style) :
    Visit.Alike g (Walk.visit ⟨g, s, source⟩ c) (Walk.visit ⟨g, t, source⟩ c) := by
  induction c generalizing s t with
  | token label span => exact ⟨rfl, fun _ => trivial, nofun, nofun⟩
  | node label body ih =>
    rw [Child.parts_eq_cons rfl] at accepted
    refine ⟨rfl, fun inTrivia => alike_node_of_children inTrivia fun c member => ?_, nofun, nofun⟩
    refine ih c member (fun x part => ?_) s t
    exact accepted x (List.mem_cons_of_mem _ (Node.mem_parts.2 ⟨c, member, part⟩))
  | trivia label body ih =>
    rw [Child.parts_eq_cons rfl] at accepted
    obtain ⟨own, inside⟩ := List.forall_mem_cons.1 accepted
    have node : ∀ s t inTrivia, (Walk.node ⟨g, s, source⟩ body inTrivia).Alike (fun _ _ => True)
        (Walk.node ⟨g, t, source⟩ body inTrivia) := by
      intro s t inTrivia
      refine alike_node_of_children inTrivia fun c member => ih c member (fun x part => ?_) s t
      exact inside x (Node.mem_parts.2 ⟨c, member, part⟩)
    -- What one style accepts no other one rejects.
    obtain ⟨style, a, fits⟩ := own body rfl
    have sure : ∀ s, (Walk.node ⟨g, s, source⟩ body true).Sure := by
      intro s
      have same := node style s true
      rw [fits] at same
      exact same.sure_right
    refine ⟨rfl, node s t, fun _ => ⟨sure s, sure t⟩, ?_⟩
    rintro _ ⟨⟩
    exact rule_lt_of_fits fits

theorem alike_node {tree : Tree}
    (accepted : ∀ c ∈ tree.parts, ∀ body ∈ c.trivia?, ∃ style a,
      Walk.node ⟨g, style, source⟩ body true = .fits a) (s t : Style) (inTrivia : Bool) :
    (Walk.node ⟨g, s, source⟩ tree inTrivia).Alike (fun _ _ => True)
      (Walk.node ⟨g, t, source⟩ tree inTrivia) := by
  refine alike_node_of_children inTrivia fun c member => alike_visit c (fun x part => ?_) s t
  exact accepted x (Node.mem_parts.2 ⟨c, member, part⟩)

/-- Where brackets nest, a tree has a document exactly if it is retraced. -/
theorem raw_of_nests {u : Unparser} {rule : String} {tree : Tree}
    (known : u.grammar.ruleId? rule = some tree.rule)
    (nests : ∀ e, u.raw rule tree source ≠ .error (.nesting e)) :
    (∃ a d, Walk.node ⟨u.grammar, u.style, source⟩ tree false = .fits a ∧
        u.raw rule tree source = .ok d) ∨
      ¬ (Walk.node ⟨u.grammar, u.style, source⟩ tree false).Sure ∧
        u.raw rule tree source = .error (.mismatch rule) := by
  rw [raw_of_known known] at nests ⊢
  cases walked : Walk.node ⟨u.grammar, u.style, source⟩ tree false with
  | broken e => exact absurd (by rw [walked]) (nests e)
  | misfit | astray => exact .inr ⟨id, rfl⟩
  | fits a =>
    cases done : a.finish with
    | error e => exact absurd (by simp only [walked, done, Except.mapError]) (nests e)
    | ok d => exact .inl ⟨a, d, rfl, by simp only [done, Except.mapError]⟩

/-- A tree fits its rule in one style exactly if it does in another one, where
brackets nest in both. -/
theorem raw_restyle {tree : Tree}
    (accepted : ∀ c ∈ tree.parts, ∀ body ∈ c.trivia?, ∃ style a,
      Walk.node ⟨g, style, source⟩ body true = .fits a)
    {rule : String} (nests : ∀ e, Unparser.raw ⟨g, s⟩ rule tree source ≠ .error (.nesting e))
    (nests' : ∀ e, Unparser.raw ⟨g, t⟩ rule tree source ≠ .error (.nesting e)) :
    ((∃ d, Unparser.raw ⟨g, s⟩ rule tree source = .ok d) ↔
        ∃ d, Unparser.raw ⟨g, t⟩ rule tree source = .ok d) ∧
      ∀ e, Unparser.raw ⟨g, s⟩ rule tree source = .error e ↔
        Unparser.raw ⟨g, t⟩ rule tree source = .error e := by
  by_cases known : g.ruleId? rule = some tree.rule
  · have alike := alike_node accepted s t false
    rcases raw_of_nests (u := ⟨g, s⟩) known nests with ⟨a, d, left, raw⟩ | ⟨unsure, raw⟩
    · rcases raw_of_nests (u := ⟨g, t⟩) known nests' with ⟨b, d', right, raw'⟩ | ⟨unsure, raw'⟩
      · simp [raw, raw']
      · rw [left] at alike
        exact absurd alike.sure_right unsure
    · rcases raw_of_nests (u := ⟨g, t⟩) known nests' with ⟨b, d', right, raw'⟩ | ⟨unsure', raw'⟩
      · rw [right] at alike
        exact absurd alike.sure_left unsure
      · simp [raw, raw']
  · -- The tree is not even looked at.
    rw [raw_of_unknown (u := ⟨g, s⟩) known, raw_of_unknown (u := ⟨g, t⟩) known]
    exact ⟨Iff.rfl, fun _ => Iff.rfl⟩

end Trees

end Reprint.Unparse

namespace Reprint

/-! ## A remark between two letters -/

/-- Two letters with a remark of one character between them. -/
def aside : Grammar where
  rules := [
    ⟨"letters", [⟨[{ term := .literal "a" }, { slot := .allowed, term := .literal "b" }], .none⟩]⟩,
    ⟨"_", [⟨[{ term := .literal "#" }], .none⟩]⟩]
  trivia := some 1

/-- The tree of two letters with a remark. -/
def asideTree : Tree :=
  ⟨0, ⟨0, 3⟩, [.token none ⟨0, 1⟩, .trivia none ⟨1, ⟨1, 2⟩, [.token none ⟨1, 2⟩]⟩, .token none ⟨2, 3⟩]⟩

/-- Remarks are dropped, the second letter is left out, and all is in a group. -/
def terse : Style := Style.runAll {} [
  .retain (.only []),
  .treat none ⟨.before, .literal "b"⟩ .omitted,
  .direct none ⟨.before, .ruleStart⟩ (.opening .group),
  .direct none ⟨.after, .ruleEnd⟩ (.closing .group)]

theorem raw_restyle_aside :
    (∀ c ∈ asideTree.parts, ∀ body ∈ c.trivia?, ∃ style a,
        Unparse.Walk.node ⟨aside, style, "a#b"⟩ body true = .fits a) ∧
      (∀ e, Unparser.raw ⟨aside, {}⟩ "letters" asideTree "a#b" ≠ .error (.nesting e)) ∧
      (∀ e, Unparser.raw ⟨aside, terse⟩ "letters" asideTree "a#b" ≠ .error (.nesting e)) ∧
      ∃ d, Unparser.raw ⟨aside, terse⟩ "letters" asideTree "a#b" = .ok d := by
  have plain : Unparser.raw ⟨aside, {}⟩ "letters" asideTree "a#b"
      = .ok (.seq [.text "a", .triviaSlot (.comment "#") false, .text "b"]) := by
    with_unfolding_all rfl
  have brief : Unparser.raw ⟨aside, terse⟩ "letters" asideTree "a#b"
      = .ok (.group (.seq [.text "a", .spacingSlot .empty false])) := by
    with_unfolding_all rfl
  have accepted : ∀ c ∈ asideTree.parts, ∀ body ∈ c.trivia?, ∃ style a,
      Unparse.Walk.node ⟨aside, style, "a#b"⟩ body true = .fits a := by
    intro c member body inside
    have remark : body = ⟨1, ⟨1, 2⟩, [.token none ⟨1, 2⟩]⟩ := by
      have parts : asideTree.parts = [.token none ⟨0, 1⟩,
        .trivia none ⟨1, ⟨1, 2⟩, [.token none ⟨1, 2⟩]⟩, .token none ⟨1, 2⟩, .token none ⟨2, 3⟩] := rfl
      rw [parts] at member
      simp only [List.mem_cons, List.not_mem_nil, or_false] at member
      obtain rfl | rfl | rfl | rfl := member <;> cases inside
      rfl
    subst remark
    exact ⟨{}, _, by with_unfolding_all rfl⟩
  have nests : ∀ e, Unparser.raw ⟨aside, {}⟩ "letters" asideTree "a#b" ≠ .error (.nesting e) := by
    rw [plain]
    nofun
  have nests' : ∀ e, Unparser.raw ⟨aside, terse⟩ "letters" asideTree "a#b" ≠ .error (.nesting e) := by
    rw [brief]
    nofun
  exact ⟨accepted, nests, nests', (Unparse.raw_restyle accepted nests nests').1.1 ⟨_, plain⟩⟩

end Reprint
