import Reprint.Proofs.Outcome
import Reprint.Proofs.Tree
import Reprint.Proofs.Unparse.Invariant

/-!
# The next child

Two steps of the walk look at the child that comes next: a slot, and a literal, a pattern or
a reference to a rule.  `SlotCase` and `LeafCase` tell apart what there is to take, by that
child and, in a slot, by whether trivia was kept last.  For each case one equation says what
the step does, so what is shown about the walk is shown case by case.
-/

namespace Reprint.Unparse

/-! ## Slots -/

/-- What a slot comes upon, behind trivia or not. -/
inductive SlotCase (ctx : Context) (behind : Bool) : Separator → List Visit → Prop
  | tight {vs : List Visit} : SlotCase ctx behind .none vs
  | blank {sep : Separator} {v : Visit} {vs : List Visit} :
      ctx.inTrivia = true → sep ≠ .none → ctx.isBlankToken v.child = true →
      SlotCase ctx behind sep (v :: vs)
  | noBlank {vs : List Visit} :
      ctx.inTrivia = true → (∀ v ∈ vs.head?, ctx.isBlankToken v.child = false) →
      SlotCase ctx behind .allowed vs
  | lackingBlank {vs : List Visit} :
      ctx.inTrivia = true → (∀ v ∈ vs.head?, ctx.isBlankToken v.child = false) →
      SlotCase ctx behind .required vs
  | kept {sep : Separator} {v : Visit} {vs : List Visit} {label : Option String} {body : Tree} :
      ctx.inTrivia = false → sep ≠ .none → v.child = .trivia label body →
      ctx.keeps behind body = .ok true → SlotCase ctx behind sep (v :: vs)
  | dropped {sep : Separator} {v : Visit} {vs : List Visit} {label : Option String} {body : Tree} :
      ctx.inTrivia = false → sep ≠ .none → v.child = .trivia label body →
      ctx.keeps behind body = .ok false → SlotCase ctx behind sep (v :: vs)
  /-- The trivia names a rule that the table does not have. -/
  | unnamed {sep : Separator} {v : Visit} {vs : List Visit} {label : Option String} {body : Tree}
      {id : Nat} :
      ctx.inTrivia = false → sep ≠ .none → v.child = .trivia label body →
      ctx.keeps behind body = .error id → SlotCase ctx behind sep (v :: vs)
  | noTrivia {sep : Separator} {vs : List Visit} :
      ctx.inTrivia = false → sep ≠ .none → (∀ v ∈ vs.head?, v.child.isTrivia = false) →
      SlotCase ctx behind sep vs

theorem slotCase (ctx : Context) (behind : Bool) (sep : Separator) (vs : List Visit) :
    SlotCase ctx behind sep vs := by
  by_cases tight : sep = .none
  · exact tight ▸ .tight
  cases inTrivia : ctx.inTrivia with
  | true =>
    have vacant : (∀ v ∈ vs.head?, ctx.isBlankToken v.child = false) → SlotCase ctx behind sep vs := by
      intro free
      cases sep with
      | none => exact absurd rfl tight
      | allowed => exact .noBlank inTrivia free
      | required => exact .lackingBlank inTrivia free
    cases vs with
    | nil => exact vacant nofun
    | cons v vs =>
      by_cases blank : ctx.isBlankToken v.child
      · exact .blank inTrivia tight blank
      · exact vacant (by simpa using blank)
  | false =>
    cases vs with
    | nil => exact .noTrivia inTrivia tight nofun
    | cons v vs =>
      cases same : v.child with
      | token | node => exact .noTrivia inTrivia tight (by simp [same, Child.isTrivia])
      | trivia label body =>
        cases wanted : ctx.keeps behind body with
        | error id => exact .unnamed inTrivia tight same wanted
        | ok keep =>
          cases keep with
          | true => exact .kept inTrivia tight same wanted
          | false => exact .dropped inTrivia tight same wanted

/-- Where the rules in trivia are in the table, they are asked for their names in order and
the style decides. -/
theorem keeps_of_named {ctx : Context} {body : Tree}
    (named : ∀ c ∈ body.children, ∀ inner ∈ c.node?, inner.rule < ctx.grammar.rules.length)
    (behind : Bool) :
    ctx.keeps behind body = .ok (!behind && ctx.style.retention.keeps
      ((body.children.filterMap Child.node?).map fun inner => ctx.grammar.ruleName inner.rule)) := by
  unfold Context.keeps Retention.keeps
  cases behind with
  | true => rfl
  | false =>
    cases ctx.style.retention with
    | all => rfl
    | only rules =>
      refine (anyM_eq_ok fun inner member => ?_).trans (congrArg Except.ok List.any_map.symm)
      obtain ⟨c, inside, own⟩ := List.mem_filterMap.1 member
      have known : inner.rule < ctx.grammar.rules.length := named c inside inner own
      simp [Grammar.ruleName, List.getElem?_eq_getElem known]

section Slot

variable {ctx : Context} {sep : Separator} {v : Visit} {vs : List Visit} {a : Assembly}

/-- In a slot without blanks nothing happens. -/
theorem slot_none (ctx : Context) (p : Progress) : ctx.slot .none p = .fits p := rfl

theorem slot_of_blank (inTrivia : ctx.inTrivia = true) (some : sep ≠ .none)
    (blank : ctx.isBlankToken v.child = true) :
    ctx.slot sep (v :: vs, a) = .fits (vs, ctx.addSlot sep a) := by
  rw [Context.slot, if_neg some, if_pos inTrivia, Context.innerSlot, if_pos blank]

theorem innerSlot_of_vacant (free : ∀ v ∈ vs.head?, ctx.isBlankToken v.child = false) :
    ctx.innerSlot sep (vs, a) =
      if sep = .required then .misfit else .fits (vs, ctx.addSlot sep a) := by
  cases vs with
  | nil => rfl
  | cons v vs =>
    have free : ctx.isBlankToken v.child = false := free v rfl
    rw [Context.innerSlot, free, if_neg Bool.false_ne_true]

theorem slot_of_noBlank (inTrivia : ctx.inTrivia = true)
    (free : ∀ v ∈ vs.head?, ctx.isBlankToken v.child = false) :
    ctx.slot .allowed (vs, a) = .fits (vs, ctx.addSlot .allowed a) := by
  rw [Context.slot, if_neg (by decide), if_pos inTrivia, innerSlot_of_vacant free, if_neg (by decide)]

theorem slot_of_lackingBlank (inTrivia : ctx.inTrivia = true)
    (free : ∀ v ∈ vs.head?, ctx.isBlankToken v.child = false) :
    ctx.slot .required (vs, a) = .misfit := by
  rw [Context.slot, if_neg (by decide), if_pos inTrivia, innerSlot_of_vacant free, if_pos rfl]

section Trivia

variable {label : Option String} {body : Tree}

theorem slot_of_kept (outside : ctx.inTrivia = false) (some : sep ≠ .none)
    (same : v.child = .trivia label body) (kept : ctx.keeps a.lastWasTrivia body = .ok true) :
    ctx.slot sep (v :: vs, a) = (v.inner true).andThen fun inner =>
      (Walked.ofExcept inner.finish).map fun d =>
        (vs, a.addTrivia (.triviaSlot d (sep == .required))) := by
  rw [Context.slot, if_neg some, if_neg (by simp [outside]), Context.outerSlot]
  simp only [same, kept]

theorem slot_of_dropped (outside : ctx.inTrivia = false) (some : sep ≠ .none)
    (same : v.child = .trivia label body) (dropped : ctx.keeps a.lastWasTrivia body = .ok false) :
    ctx.slot sep (v :: vs, a) = .fits (vs, ctx.addSlot sep a) := by
  rw [Context.slot, if_neg some, if_neg (by simp [outside]), Context.outerSlot]
  simp only [same, dropped]

theorem slot_of_unnamed (outside : ctx.inTrivia = false) (some : sep ≠ .none)
    (same : v.child = .trivia label body) {id : Nat}
    (unnamed : ctx.keeps a.lastWasTrivia body = .error id) :
    ctx.slot sep (v :: vs, a) = .astray id := by
  rw [Context.slot, if_neg some, if_neg (by simp [outside]), Context.outerSlot]
  simp only [same, unnamed]

end Trivia

theorem slot_of_noTrivia (outside : ctx.inTrivia = false) (some : sep ≠ .none)
    (free : ∀ v ∈ vs.head?, v.child.isTrivia = false) :
    ctx.slot sep (vs, a) = .fits (vs, ctx.addSlot sep a) := by
  rw [Context.slot, if_neg some, if_neg (by simp [outside])]
  cases vs with
  | nil => rfl
  | cons v vs =>
    have free : v.child.isTrivia = false := free v rfl
    rw [Context.outerSlot]
    cases same : v.child with
    | token | node => rfl
    | trivia =>
      rw [same] at free
      cases free

end Slot

/-! ## Tokens and nodes -/

/-- The child is what a literal, a pattern or a reference to a rule stands for. -/
inductive Meets (source : String) : Option String → Grammar.Term → Child → Prop
  | literal {label : Option String} {text : String} {span : Span} :
      span.slice? source = some text → Meets source label (.literal text) (.token label span)
  | pattern {label : Option String} {p : Pattern} {text : String} {span : Span} :
      span.slice? source = some text → p.takesAll text.toList →
      Meets source label (.pattern p) (.token label span)
  | rule {label : Option String} {id : Nat} {body : Tree} :
      body.rule = id → Meets source label (.rule id) (.node label body)

/-- The text is read by a literal or a pattern. -/
inductive ReadBy (text : String) : Grammar.Term → Prop
  | literal : ReadBy text (.literal text)
  | pattern {p : Pattern} : p.takesAll text.toList → ReadBy text (.pattern p)

/-- What a literal, a pattern or a reference to a rule comes upon. -/
inductive LeafCase (ctx : Context) (label : Option String) : Grammar.Term → List Visit → Prop
  | missing {t : Grammar.Term} {vs : List Visit} :
      (∀ v ∈ vs.head?, ¬ Meets ctx.source label t v.child) → LeafCase ctx label t vs
  | token {t : Grammar.Term} {v : Visit} {vs : List Visit} {span : Span} {text : String} :
      v.child = .token label span → span.slice? ctx.source = some text → ReadBy text t →
      LeafCase ctx label t (v :: vs)
  | node {v : Visit} {vs : List Visit} {body : Tree} :
      v.child = .node label body → LeafCase ctx label (.rule body.rule) (v :: vs)

theorem leafCase (ctx : Context) (label : Option String) (t : Grammar.Term) (vs : List Visit) :
    LeafCase ctx label t vs := by
  cases vs with
  | nil => exact .missing nofun
  | cons v vs =>
    by_cases meets : Meets ctx.source label t v.child
    · generalize same : v.child = c at meets
      cases meets with
      | literal found => exact .token same found .literal
      | pattern found all => exact .token same found (.pattern all)
      | rule own => exact own ▸ .node same
    · exact .missing (by simpa using meets)

section Leaf

variable {ctx : Context} {label : Option String} {t : Grammar.Term} {v : Visit} {vs : List Visit}
  {a : Assembly}

theorem leaf_of_missing (other : ∀ v ∈ vs.head?, ¬ Meets ctx.source label t v.child) :
    ctx.leaf label t (vs, a) = .misfit := by
  cases vs with
  | nil => rfl
  | cons v vs =>
    have other := other v rfl
    unfold Context.leaf
    dsimp only
    generalize v.child = c at other ⊢
    split_ifs with different
    · rfl
    obtain rfl := Decidable.not_not.1 different
    cases c with
    | trivia => cases t <;> rfl
    | node label body =>
      cases t with
      | literal | pattern | group => rfl
      | rule id => exact if_neg fun own => other (.rule own)
    | token label span =>
      cases t with
      | rule | group => rfl
      | literal text => exact if_neg fun found => other (.literal found)
      | pattern p =>
        dsimp only
        split
        · next text found => exact if_neg fun all => other (.pattern found all)
        · rfl

theorem leaf_of_token {span : Span} {text : String} (same : v.child = .token label span)
    (found : span.slice? ctx.source = some text) (read : ReadBy text t) :
    ctx.leaf label t (v :: vs, a) = .fits (vs, a.addContent (ctx.token text)) := by
  unfold Context.leaf
  simp only [same, Child.label, ne_eq, not_true_eq_false, if_false]
  cases read with
  | literal => exact if_pos found
  | pattern all => simp only [found, if_pos all]

theorem leaf_of_node {body : Tree} (same : v.child = .node label body) :
    ctx.leaf label (.rule body.rule) (v :: vs, a) =
      (v.inner ctx.inTrivia).andThen fun inner =>
        (Walked.ofExcept (a.merge inner)).map fun a => (vs, a) := by
  unfold Context.leaf
  simp only [same, Child.label, ne_eq, not_true_eq_false, if_false, if_true]

end Leaf

/-! ## Children of a tree -/

section Visits

variable {w : Walk}

theorem visits_eq_cons {cs : List Child} {v : Visit} {vs : List Visit} :
    w.visits cs = v :: vs ↔ ∃ c rest, cs = c :: rest ∧ w.visit c = v ∧ w.visits rest = vs := by
  simp only [visits_eq_map, List.map_eq_cons_iff]

theorem length_visits (w : Walk) (cs : List Child) : (w.visits cs).length = cs.length := by
  rw [visits_eq_map, List.length_map]

theorem forall_head_visits {P : Child → Prop} {cs : List Child} :
    (∀ v ∈ (w.visits cs).head?, P v.child) ↔ ∀ c ∈ cs.head?, P c := by
  cases cs with
  | nil => simp [Walk.visits]
  | cons c cs => simp [Walk.visits, child_visit]

end Visits

end Reprint.Unparse
