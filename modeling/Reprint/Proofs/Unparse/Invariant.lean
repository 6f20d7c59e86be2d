import Mathlib.Data.List.Basic
import Reprint.Proofs.Grammar
import Reprint.Unparse.Walk

/-!
# Invariants of the walk

The walk along a production changes the children that are left and the document
so far in three kinds of step: it passes a slot, it takes a child for a term that
is no group, and it carries out a directive.  What each of these steps keeps is
kept by the whole walk (`Stable.alternatives`), whatever it tries and gives up.

Some properties are kept around a whole item though single directives do not keep
them.  They are `Steady`, which is what the walk needs in general.
-/

namespace Reprint.Unparse

/-! ## Outcomes -/

namespace Walked

variable {α β : Type} {broken : Prop} {P : α → Prop} {Q : β → Prop}

/-- The result satisfies `P` if there is one, and brackets fail to nest only if
`broken` holds.  Nothing is said of a walk that does not fit or goes astray. -/
def Holds (broken : Prop) (P : α → Prop) : Walked α → Prop
  | .fits a => P a
  | .misfit | .astray _ => True
  | .broken _ => broken

theorem Holds.mono {P' : α → Prop} {x : Walked α} (holds : x.Holds broken P) (weaker : ∀ a, P a → P' a) :
    x.Holds broken P' := by
  cases x with
  | fits a => exact weaker a holds
  | misfit | astray => trivial
  | broken e => exact holds

theorem Holds.and {P' : α → Prop} {x : Walked α} (holds : x.Holds broken P) (also : x.Holds True P') :
    x.Holds broken fun a => P a ∧ P' a := by
  cases x with
  | fits a => exact ⟨holds, also⟩
  | misfit | astray => trivial
  | broken e => exact holds

theorem Holds.andThen {x : Walked α} {f : α → Walked β} (first : x.Holds broken P)
    (next : ∀ a, P a → (f a).Holds broken Q) : (x.andThen f).Holds broken Q := by
  cases x with
  | fits a => exact next a first
  | misfit | astray => trivial
  | broken e => exact first

theorem Holds.orElse {x : Walked α} {y : Unit → Walked α} (first : x.Holds broken P)
    (second : (y ()).Holds broken P) : (x.orElse y).Holds broken P := by
  cases x with
  | fits a => exact first
  | misfit => exact second
  | astray => trivial
  | broken e => exact first

theorem Holds.map {x : Walked α} {f : α → β} (first : x.Holds broken P) (next : ∀ a, P a → Q (f a)) :
    (x.map f).Holds broken Q :=
  first.andThen next

/-- A result may be used together with where it comes from. -/
theorem holds_andThen {x : Walked α} {f : α → Walked β}
    (next : ∀ a, x = .fits a → (f a).Holds True Q) : (x.andThen f).Holds True Q := by
  cases x with
  | fits a => exact next a rfl
  | misfit | astray => trivial
  | broken e => trivial

end Walked

theorem holds_ofExcept {α : Type} {P : α → Prop} {x : Except NestingError α}
    (holds : ∀ a, x = .ok a → P a) : (Walked.ofExcept x).Holds True P := by
  cases x with
  | ok a => exact holds a rfl
  | error e => trivial

/-! ## Children -/

/-- The context in which the productions of a rule are followed. -/
def Walk.context (w : Walk) (rule : String) (inTrivia : Bool) : Context :=
  { grammar := w.grammar, style := w.style, source := w.source, rule, inTrivia }

theorem visits_eq_map (w : Walk) (cs : List Child) : w.visits cs = cs.map w.visit := by
  induction cs with
  | nil => rfl
  | cons c cs ih => rw [Walk.visits, ih, List.map_cons]

theorem child_visit (w : Walk) (c : Child) : (w.visit c).child = c := by
  cases c <;> rfl

/-! ## Occurrences -/

section Occurrences

variable {broken : Prop} {I : Progress → Prop} {once : Progress → Walked Progress}

theorem holds_repeated (step : ∀ p, I p → (once p).Holds broken I) (p : Progress) (holds : I p) :
    (repeated once p).Holds broken fun r => I r.2 := by
  induction size : p.1.length using Nat.strongRecOn generalizing p with
  | ind n ih =>
    subst size
    have first := step p holds
    rw [repeated]
    split
    · exact holds
    · next e same => rwa [same] at first
    · trivial
    · next q same =>
      rw [same] at first
      split_ifs with fewer
      · exact (ih _ fewer q first rfl).map fun _ held => held
      · exact first

theorem holds_quantified (quantifier : Quantifier) (step : ∀ p, I p → (once p).Holds broken I)
    (p : Progress) (holds : I p) : (quantified quantifier once p).Holds broken I := by
  have many : ((repeated once p).andThen fun r =>
      if quantifier.least ≤ r.1 then .fits r.2 else .misfit).Holds broken I := by
    refine (holds_repeated step p holds).andThen ?_
    intro r held
    split_ifs
    · exact held
    · trivial
  unfold quantified
  split
  · exact step p holds
  · exact (step p holds).orElse holds
  · exact many
  · exact many

theorem holds_items {ctx : Context} {is : List (Item Grammar.Term)}
    (step : ∀ i ∈ is, ∀ p, I p → (item ctx i p).Holds broken I) (p : Progress) (holds : I p) :
    (items ctx is p).Holds broken I := by
  induction is generalizing p with
  | nil =>
    rw [items]
    exact holds
  | cons i is ih =>
    obtain ⟨first, others⟩ := List.forall_mem_cons.1 step
    rw [items]
    exact (first p holds).andThen fun q holds => ih others q holds

theorem holds_productions {ctx : Context} {ps : List (Production Grammar.Term)}
    (step : ∀ p ∈ ps, ∀ q, I q → (production ctx p q).Holds broken I) (q : Progress) (holds : I q) :
    (productions ctx ps q).Holds broken I := by
  induction ps with
  | nil =>
    rw [productions]
    trivial
  | cons p ps ih =>
    obtain ⟨first, others⟩ := List.forall_mem_cons.1 step
    rw [productions]
    exact (first q holds).orElse (ih others)

end Occurrences

/-! ## Directives -/

/-- What an anchor may select to reach an item with this label and this literal text. -/
def selectors (label literal : Option String) : List Selector :=
  (label.map .label).toList ++ (literal.map .literal).toList

/-- The directives of an item are those at all anchors that reach it, from the
outside in and back. -/
theorem itemDirectives_eq (ctx : Context) (label literal : Option String) :
    ctx.itemDirectives label literal
      = ((selectors label literal).flatMap (ctx.directives .before),
        (selectors label literal).reverse.flatMap (ctx.directives .after)) := by
  cases label <;> cases literal <;> simp [Context.itemDirectives, selectors]

theorem exists_of_mem_before {ctx : Context} {label literal : Option String} {d : Directive}
    (member : d ∈ (ctx.itemDirectives label literal).1) :
    ∃ selector ∈ selectors label literal, d ∈ ctx.directives .before selector := by
  rw [itemDirectives_eq] at member
  exact List.mem_flatMap.1 member

theorem exists_of_mem_after {ctx : Context} {label literal : Option String} {d : Directive}
    (member : d ∈ (ctx.itemDirectives label literal).2) :
    ∃ selector ∈ selectors label literal, d ∈ ctx.directives .after selector := by
  rw [itemDirectives_eq] at member
  obtain ⟨selector, reaches, inside⟩ := List.mem_flatMap.1 member
  exact ⟨selector, List.mem_reverse.1 reaches, inside⟩

theorem directAll_cons (side : Side) (spaced : Bool) (d : Directive) (ds : List Directive)
    (a : Assembly) :
    Context.directAll side spaced (d :: ds) a
      = (Walked.ofExcept (Context.direct side spaced a d)).andThen
          (Context.directAll side spaced ds) := by
  unfold Context.directAll
  rw [List.foldlM_cons]
  cases Context.direct side spaced a d <;> rfl

theorem holds_directAll {broken : Prop} {J : Assembly → Prop} {side : Side} {spaced : Bool}
    {ds : List Directive}
    (step : ∀ d ∈ ds, ∀ a, J a → (Walked.ofExcept (Context.direct side spaced a d)).Holds broken J)
    (a : Assembly) (holds : J a) : (Context.directAll side spaced ds a).Holds broken J := by
  induction ds generalizing a with
  | nil => exact holds
  | cons d ds ih =>
    obtain ⟨first, others⟩ := List.forall_mem_cons.1 step
    rw [directAll_cons]
    exact (first a holds).andThen (ih others)

/-! ## Steady properties -/

/-- One occurrence of an item: its slot, then its term between its directives. -/
def once (ctx : Context) (i : Item Grammar.Term) (p : Progress) : Walked Progress :=
  (ctx.slot i.slot p).andThen fun (rest, a) =>
    ctx.emit i.label i.term.literal? (fun a => term ctx i.label i.term (rest, a)) a

theorem item_eq (ctx : Context) {i : Item Grammar.Term} (shown : i.suppressed = false)
    (p : Progress) : item ctx i p = quantified i.quantifier (once ctx i) p := by
  obtain ⟨slot, label, t, quantifier, suppressed⟩ := i
  obtain rfl : suppressed = false := shown
  rw [item]
  rfl

/-- A property of the progress that is kept by every step of the walk in a rule
which has only certain slots and only certain items. -/
structure Steady (ctx : Context) (slots : Separator → Prop) (known : Item Grammar.Term → Prop)
    (broken : Prop) (I : Progress → Prop) : Prop where
  slot : ∀ sep, slots sep → ∀ p, I p → (ctx.slot sep p).Holds broken I
  leaf : ∀ i, known i → ∀ p, I p → (ctx.leaf i.label i.term p).Holds broken I
  /-- What stands around an item keeps what its term keeps. -/
  emit : ∀ i, known i → (∀ p, I p → (term ctx i.label i.term p).Holds broken I) → ∀ rest a,
    I (rest, a) →
      (ctx.emit i.label i.term.literal? (fun a => term ctx i.label i.term (rest, a)) a).Holds broken I
  boundary : ∀ selector, selector = .ruleStart ∨ selector = .ruleEnd → ∀ rest a, I (rest, a) →
    (ctx.boundary selector a).Holds broken fun a => I (rest, a)

/-- The slots and the items of a production are of the given kinds, and no item of
it is suppressed. -/
def Shaped (slots : Separator → Prop) (known : Item Grammar.Term → Prop)
    (p : Production Grammar.Term) : Prop :=
  slots p.trailing ∧ ∀ i ∈ p.items, i.suppressed = false ∧ slots i.slot ∧ known i

namespace Steady

variable {ctx : Context} {slots : Separator → Prop} {known : Item Grammar.Term → Prop} {broken : Prop}
  {I : Progress → Prop} (steady : Steady ctx slots known broken I)
include steady

theorem item {i : Item Grammar.Term} (shown : i.suppressed = false) (slot : slots i.slot) (own : known i)
    (step : ∀ p, I p → (term ctx i.label i.term p).Holds broken I) (p : Progress) (holds : I p) :
    (item ctx i p).Holds broken I := by
  rw [item_eq ctx shown]
  refine holds_quantified _ ?_ p holds
  intro p holds
  refine (steady.slot i.slot slot p holds).andThen ?_
  rintro ⟨rest, a⟩ holds
  exact steady.emit i own step rest a holds

theorem production {p : Production Grammar.Term} (shaped : Shaped slots known p)
    (step : ∀ i ∈ p.items, ∀ q, I q → (term ctx i.label i.term q).Holds broken I) (q : Progress)
    (holds : I q) : (production ctx p q).Holds broken I := by
  obtain ⟨is, trailing⟩ := p
  rw [Unparse.production]
  refine (holds_items ?_ q holds).andThen fun q holds => steady.slot trailing shaped.1 q holds
  intro i member
  obtain ⟨shown, slot, own⟩ := shaped.2 i member
  exact steady.item shown slot own (step i member)

/-- The term of an item keeps the property, whatever groups it consists of. -/
theorem term (t : Grammar.Term) (shaped : Throughout (Shaped slots known) t.productions)
    (i : Item Grammar.Term) (same : i.term = t) (own : known i) (q : Progress) (holds : I q) :
    (term ctx i.label t q).Holds broken I := by
  induction t using Term.inductionOn generalizing i q with
  | rule | literal | pattern =>
    rw [Unparse.term, ← same]
    exact steady.leaf i own q holds
  | group ps ih =>
    rw [Unparse.term]
    refine holds_productions ?_ q holds
    intro p member
    obtain ⟨outer, inner⟩ := shaped.of_mem member
    refine steady.production outer ?_
    intro j inside
    exact ih p member j inside (inner j inside) j rfl (outer.2 j inside).2.2

theorem whole {p : Production Grammar.Term} {ps : List (Production Grammar.Term)} (member : p ∈ ps)
    (shaped : Throughout (Shaped slots known) ps) {children : List Visit} (holds : I (children, {})) :
    (whole ctx children p).Holds broken fun a => I ([], a) := by
  obtain ⟨outer, inner⟩ := shaped.of_mem member
  refine (steady.boundary .ruleStart (.inl rfl) children {} holds).andThen fun a holds => ?_
  have step : ∀ i ∈ p.items, ∀ q, I q → (Unparse.term ctx i.label i.term q).Holds broken I :=
    fun i inside => steady.term i.term (inner i inside) i rfl (outer.2 i inside).2.2
  refine (steady.production outer step _ holds).andThen ?_
  rintro ⟨rest, a⟩ holds
  dsimp only
  split_ifs with done
  · rw [List.isEmpty_iff.1 done] at holds
    exact steady.boundary .ruleEnd (.inr rfl) [] a holds
  · trivial

/-- What every step keeps holds where all children of a node are taken. -/
theorem alternatives {ps : List (Production Grammar.Term)} (shaped : Throughout (Shaped slots known) ps)
    {children : List Visit} (holds : I (children, {})) :
    (alternatives ctx children ps).Holds broken fun a => I ([], a) := by
  have step : ∀ p ∈ ps, (Unparse.whole ctx children p).Holds broken fun a => I ([], a) :=
    fun p member => steady.whole member shaped holds
  clear shaped
  induction ps with
  | nil => trivial
  | cons p ps ih =>
    obtain ⟨first, others⟩ := List.forall_mem_cons.1 step
    exact first.orElse (ih others)

end Steady

/-! ## Stable properties -/

/-- A property of the progress that is kept by every step of the walk in a rule
which has only certain slots and only certain references. -/
structure Stable (ctx : Context) (slots : Separator → Prop) (refs : Nat → Prop) (broken : Prop)
    (I : Progress → Prop) : Prop where
  slot : ∀ sep, slots sep → ∀ p, I p → (ctx.slot sep p).Holds broken I
  leaf : ∀ label t, (∀ id, t = .rule id → refs id) → ∀ p, I p → (ctx.leaf label t p).Holds broken I
  direct : ctx.inTrivia = false → ∀ side selector, ∀ d ∈ ctx.directives side selector,
    ∀ rest a, I (rest, a) →
      (Walked.ofExcept (Context.direct side true a d)).Holds broken fun a => I (rest, a)
  normal : ctx.inTrivia = false → ∀ label literal,
    ctx.style.treatment ctx.rule label literal = .normal

/-- The slots and the references of a production are of the given kinds, and no
item of it is suppressed. -/
def Drawn (slots : Separator → Prop) (refs : Nat → Prop) (p : Production Grammar.Term) : Prop :=
  slots p.trailing ∧
    ∀ i ∈ p.items, i.suppressed = false ∧ slots i.slot ∧ ∀ id, i.term = .rule id → refs id

namespace Stable

variable {ctx : Context} {slots : Separator → Prop} {refs : Nat → Prop} {broken : Prop}
  {I : Progress → Prop} (stable : Stable ctx slots refs broken I)
include stable

theorem directives (outside : ctx.inTrivia = false) (side : Side) (selector : Selector)
    (rest : List Visit) (a : Assembly) (holds : I (rest, a)) :
    (Context.directAll side true (ctx.directives side selector) a).Holds broken fun a => I (rest, a) :=
  holds_directAll (fun d member a holds => stable.direct outside side selector d member rest a holds)
    a holds

theorem boundary (selector : Selector) (rest : List Visit) (a : Assembly) (holds : I (rest, a)) :
    (ctx.boundary selector a).Holds broken fun a => I (rest, a) := by
  unfold Context.boundary
  split_ifs with inTrivia
  · exact holds
  · have outside : ctx.inTrivia = false := Bool.not_eq_true _ ▸ inTrivia
    refine (stable.directives outside .before selector rest a holds).andThen ?_
    exact fun a holds => stable.directives outside .after selector rest a holds

theorem emit (label literal : Option String) {content : Assembly → Walked Progress}
    (rest : List Visit) (step : ∀ a, I (rest, a) → (content a).Holds broken I) (a : Assembly)
    (holds : I (rest, a)) : (ctx.emit label literal content a).Holds broken I := by
  unfold Context.emit
  split_ifs with inTrivia
  · exact step a holds
  · have outside : ctx.inTrivia = false := Bool.not_eq_true _ ▸ inTrivia
    simp only [stable.normal outside label literal, Context.treated]
    refine (holds_directAll (J := fun a => I (rest, a)) ?_ a holds).andThen fun a holds =>
      (step a holds).andThen ?_
    · intro d member a holds
      obtain ⟨selector, _, inside⟩ := exists_of_mem_before member
      exact stable.direct outside .before selector d inside rest a holds
    · rintro ⟨rest', a'⟩ holds'
      refine (holds_directAll (J := fun a => I (rest', a)) ?_ a' holds').map fun _ held => held
      intro d member a holds
      obtain ⟨selector, _, inside⟩ := exists_of_mem_after member
      exact stable.direct outside .after selector d inside rest' a holds

/-- Where items are left in place, carrying out directives one by one is all that
happens around them. -/
theorem steady : Steady ctx slots (fun i => ∀ id, i.term = .rule id → refs id) broken I where
  slot := stable.slot
  leaf i known := stable.leaf i.label i.term known
  emit i _ step rest := stable.emit i.label i.term.literal? rest fun a holds => step (rest, a) holds
  boundary selector _ := stable.boundary selector

theorem whole {p : Production Grammar.Term} {ps : List (Production Grammar.Term)} (member : p ∈ ps)
    (drawn : Throughout (Drawn slots refs) ps) {children : List Visit} (holds : I (children, {})) :
    (whole ctx children p).Holds broken fun a => I ([], a) :=
  stable.steady.whole member drawn holds

/-- What every step keeps holds where all children of a node are taken. -/
theorem alternatives {ps : List (Production Grammar.Term)} (drawn : Throughout (Drawn slots refs) ps)
    {children : List Visit} (holds : I (children, {})) :
    (alternatives ctx children ps).Holds broken fun a => I ([], a) :=
  stable.steady.alternatives drawn holds

end Stable

end Reprint.Unparse
