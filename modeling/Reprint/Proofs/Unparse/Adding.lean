import Reprint.Proofs.Assembly.Levels
import Reprint.Proofs.Unparse.Plain

/-!
# What the items of a rule add

If brackets are only opened and closed at the ends of rules, the walk along a
production does not care what stands before: it takes the same children and adds the
same pieces, whichever brackets are open, or it fits nowhere, or it goes astray
everywhere (`Adds`).  All that counts is whether the last piece was trivia.  So what the items of a node add can be
told by walking along them on their own.

What is added consists of single pieces (`Fragment`) and of what stands for nodes
among the children.  Any property of lists of pieces that goes with this
(`Gathers`) holds of what a production adds (`adds_production`).
-/

namespace Reprint.Unparse

/-! ## Pieces -/

/-- A document that is added as one piece: a slot, a token, what was regenerated or
asked for instead of an item, and spacing asked for beside one. -/
inductive Fragment (ctx : Context) : Doc → Prop
  | slot (sep : Separator) : Fragment ctx (ctx.style.usualSlot ctx.rule sep)
  | trivia (kept : Doc) (required : Bool) : Fragment ctx (.triviaSlot kept required)
  | token (text : String) : Fragment ctx (ctx.token text)
  | regenerated (t : Grammar.Term) : Fragment ctx (regenerate ctx.style ctx.rule t)
  | replaced {label literal : Option String} {d : Doc} :
      ctx.style.treatment ctx.rule label literal = .replaced d → Fragment ctx d
  | before {selector : Selector} {d : Doc} :
      .spacing d ∈ ctx.directives .before selector → Fragment ctx (.before d)
  | after {selector : Selector} {d : Doc} :
      .spacing d ∈ ctx.directives .after selector → Fragment ctx (.after d)

/-- A property of lists of pieces that are put together of single ones and of what
stands for nodes among children whose trees leave no bracket open. -/
structure Gathers (ctx : Context) (children : List Visit) (own : List Doc → Prop) : Prop where
  closed : ∀ v ∈ children, ∀ inTrivia, (v.inner inTrivia).Holds False fun a => a.frames = []
  nil : own []
  append : ∀ {front back}, own front → own back → own (front ++ back)
  fragment : ∀ {d}, Fragment ctx d → own [d]
  node : ∀ {v label body inner}, v ∈ children → v.child = .node label body →
    v.inner ctx.inTrivia = .fits inner → own inner.docs

/-- A rule has brackets nowhere but at its ends. -/
def Spaced (ctx : Context) : Prop :=
  ∀ side selector, selector ≠ .ruleStart → selector ≠ .ruleEnd →
    ∀ d ∈ ctx.directives side selector, d.isSpacing

/-! ## Steps -/

section Steps

variable {children : List Visit} {own : List Doc → Prop}

/-- Behind anything that ends with trivia, or behind anything that does not, a step
fits nowhere, or it goes astray, or it leaves the same children and adds the same pieces
everywhere. -/
def AddsAt (children : List Visit) (own : List Doc → Prop) (trivia : Bool)
    (step : Assembly → Walked Progress) : Prop :=
  (∀ a, a.Stands trivia → step a = .misfit) ∨
    (∃ id, ∀ a, a.Stands trivia → step a = .astray id) ∨
    ∃ rest added, rest ⊆ children ∧ own added.toList ∧
      ∀ a, a.Stands trivia → step a = .fits (rest, a.extend added)

/-- The same for a part of the walk, which children ever are left. -/
def Adds (children : List Visit) (own : List Doc → Prop) (walk : Progress → Walked Progress) :
    Prop :=
  ∀ vs ⊆ children, ∀ trivia, AddsAt children own trivia fun a => walk (vs, a)

variable {trivia : Bool} {step : Assembly → Walked Progress}

theorem AddsAt.congr {other : Assembly → Walked Progress} (adds : AddsAt children own trivia step)
    (same : ∀ a, a.Stands trivia → other a = step a) : AddsAt children own trivia other := by
  rcases adds with misfit | ⟨id, astray⟩ | ⟨rest, added, left, held, fits⟩
  · exact .inl fun a stands => (same a stands).trans (misfit a stands)
  · exact .inr (.inl ⟨id, fun a stands => (same a stands).trans (astray a stands)⟩)
  · exact .inr <| .inr ⟨rest, added, left, held, fun a stands => (same a stands).trans (fits a stands)⟩

theorem addsAt_misfit (misfit : ∀ a, step a = .misfit) : AddsAt children own trivia step :=
  .inl fun a _ => misfit a

theorem addsAt_astray (id : Nat) (astray : ∀ a, a.Stands trivia → step a = .astray id) :
    AddsAt children own trivia step :=
  .inr (.inl ⟨id, astray⟩)

theorem addsAt_fits (rest : List Visit) (added : Pieces) (left : rest ⊆ children)
    (held : own added.toList) (fits : ∀ a, a.Stands trivia → step a = .fits (rest, a.extend added)) :
    AddsAt children own trivia step :=
  .inr (.inr ⟨rest, added, left, held, fits⟩)

/-- Nothing is added. -/
theorem addsAt_nothing (nil : own []) {rest : List Visit} (left : rest ⊆ children)
    (fits : ∀ a, step a = .fits (rest, a)) : AddsAt children own trivia step := by
  refine addsAt_fits rest ⟨[], trivia⟩ left nil fun a stands => ?_
  rw [fits, stands.extend_eq]

/-- One piece is added. -/
theorem addsAt_push {d : Doc} (one : own [d]) {rest : List Visit} (left : rest ⊆ children)
    (flag : Bool) (fits : ∀ a, a.Stands trivia → step a = .fits (rest, a.push d flag)) :
    AddsAt children own trivia step := by
  refine addsAt_fits rest ⟨[d], flag⟩ left one fun a stands => ?_
  rw [fits a stands, stands.push_eq]

theorem AddsAt.andThen (append : ∀ {front back}, own front → own back → own (front ++ back))
    {next : Progress → Walked Progress} (first : AddsAt children own trivia step)
    (second : Adds children own next) :
    AddsAt children own trivia fun a => (step a).andThen next := by
  rcases first with misfit | ⟨id, astray⟩ | ⟨rest, added, left, held, fits⟩
  · refine .inl fun a stands => ?_
    simp only [misfit a stands, Walked.andThen]
  · refine addsAt_astray id fun a stands => ?_
    simp only [astray a stands, Walked.andThen]
  · rcases second rest left added.trivia with misfit | ⟨id, astray⟩ | ⟨rest', added', left', held', fits'⟩
    · refine .inl fun a stands => ?_
      simp only [fits a stands, Walked.andThen, misfit _ (stands.extend added)]
    · refine addsAt_astray id fun a stands => ?_
      simp only [fits a stands, Walked.andThen, astray _ (stands.extend added)]
    · refine addsAt_fits rest' (added.append added') left' ?_ fun a stands => ?_
      · rw [Pieces.toList_append]
        exact append held held'
      · simp only [fits a stands, Walked.andThen, fits' _ (stands.extend added),
          Assembly.extend_extend]

theorem AddsAt.orElse {other : Assembly → Walked Progress} (first : AddsAt children own trivia step)
    (second : AddsAt children own trivia other) :
    AddsAt children own trivia fun a => (step a).orElse fun _ => other a := by
  rcases first with misfit | ⟨id, astray⟩ | ⟨rest, added, left, held, fits⟩
  · refine second.congr fun a stands => ?_
    simp only [misfit a stands, Walked.orElse]
  · refine addsAt_astray id fun a stands => ?_
    simp only [astray a stands, Walked.orElse]
  · refine addsAt_fits rest added left held fun a stands => ?_
    simp only [fits a stands, Walked.orElse]

theorem adds_productions {ctx : Context} {ps : List (Production Grammar.Term)}
    (adds : ∀ p ∈ ps, Adds children own (production ctx p)) :
    Adds children own (productions ctx ps) := by
  induction ps with
  | nil => exact fun vs _ _ => addsAt_misfit fun _ => rfl
  | cons p ps ih =>
    obtain ⟨first, others⟩ := List.forall_mem_cons.1 adds
    exact fun vs within trivia => (first vs within trivia).orElse (ih others vs within trivia)

end Steps

section Walk

variable {ctx : Context} {children : List Visit} {own : List Doc → Prop}
  (gathers : Gathers ctx children own)
include gathers

/-! ## Slots -/

theorem adds_addSlot (sep : Separator) {rest : List Visit} (left : rest ⊆ children)
    (trivia : Bool) : AddsAt children own trivia fun a => .fits (rest, ctx.addSlot sep a) := by
  refine addsAt_push (gathers.fragment (.slot sep)) left trivia fun a stands => ?_
  rw [Context.addSlot, Assembly.addControl, stands.flag]

theorem adds_slot (sep : Separator) : Adds children own (ctx.slot sep) := by
  intro vs within trivia
  cases slotCase ctx trivia sep vs with
  | tight => exact addsAt_nothing gathers.nil within fun _ => rfl
  | blank inTrivia some blank =>
    simp only [slot_of_blank inTrivia some blank]
    exact adds_addSlot gathers sep (List.subset_of_cons_subset within) trivia
  | noBlank inTrivia free =>
    simp only [slot_of_noBlank inTrivia free]
    exact adds_addSlot gathers .allowed within trivia
  | lackingBlank inTrivia free => exact addsAt_misfit fun _ => slot_of_lackingBlank inTrivia free
  | @kept _ v vs _ body outside some same wanted =>
    have left : vs ⊆ children := List.subset_of_cons_subset within
    -- The trivia is retraced on its own, so its document does not depend on what stands before.
    have inner : AddsAt children own trivia fun a => (v.inner true).andThen fun inner =>
        (Walked.ofExcept inner.finish).map fun d =>
          (vs, a.addTrivia (.triviaSlot d (sep == .required))) := by
      have closed := gathers.closed v (within List.mem_cons_self) true
      cases retraced : v.inner true with
      | misfit => exact addsAt_misfit fun _ => rfl
      | astray id => exact addsAt_astray id fun _ _ => rfl
      | broken e =>
        rw [retraced] at closed
        exact closed.elim
      | fits inner =>
        rw [retraced] at closed
        simp only [Walked.andThen, Assembly.finish_eq_ok.2 ⟨closed, rfl⟩]
        exact addsAt_push (gathers.fragment (.trivia _ _)) left true fun a _ => rfl
    refine inner.congr fun a stands => ?_
    exact slot_of_kept outside some same (stands.flag.symm ▸ wanted)
  | @dropped _ v vs _ body outside some same unwanted =>
    refine (adds_addSlot gathers sep (List.subset_of_cons_subset within) trivia).congr fun a stands => ?_
    exact slot_of_dropped outside some same (stands.flag.symm ▸ unwanted)
  | @unnamed _ _ _ _ _ id outside some same unnamed =>
    refine addsAt_astray id fun a stands => ?_
    exact slot_of_unnamed outside some same (stands.flag.symm ▸ unnamed)
  | noTrivia outside some free =>
    simp only [slot_of_noTrivia outside some free]
    exact adds_addSlot gathers sep within trivia

/-! ## Tokens and nodes -/

theorem adds_leaf (label : Option String) (t : Grammar.Term) :
    Adds children own (ctx.leaf label t) := by
  intro vs within trivia
  cases leafCase ctx label t vs with
  | missing other => exact addsAt_misfit fun _ => leaf_of_missing other
  | token same found read =>
    simp only [leaf_of_token same found read]
    exact addsAt_push (gathers.fragment (.token _)) (List.subset_of_cons_subset within) false
      fun _ _ => rfl
  | @node v vs body same =>
    simp only [leaf_of_node same]
    have member : v ∈ children := within List.mem_cons_self
    have closed := gathers.closed v member ctx.inTrivia
    cases retraced : v.inner ctx.inTrivia with
    | misfit => exact addsAt_misfit fun _ => rfl
    | astray id => exact addsAt_astray id fun _ _ => rfl
    | broken e =>
      rw [retraced] at closed
      exact closed.elim
    | fits inner =>
      rw [retraced] at closed
      obtain ⟨added, docs, merged⟩ := Assembly.exists_merge_extend closed trivia
      refine addsAt_fits vs added (List.subset_of_cons_subset within) ?_ fun a stands => ?_
      · rw [docs]
        exact gathers.node member same retraced
      · simp only [Walked.andThen, merged a stands]
        rfl

/-! ## Around items -/

/-- Spacing is added as it is asked for. -/
theorem exists_extend_directAll (side : Side) (spaced : Bool) (trivia : Bool) {ds : List Directive}
    (known : ∀ d ∈ ds, d.isSpacing ∧ ∃ selector, d ∈ ctx.directives side selector) :
    ∃ added : Pieces, own added.toList ∧ added.trivia = trivia ∧
      ∀ a, a.Stands trivia → Context.directAll side spaced ds a = .fits (a.extend added) := by
  induction ds with
  | nil =>
    refine ⟨⟨[], trivia⟩, gathers.nil, rfl, fun a stands => ?_⟩
    rw [stands.extend_eq]
    rfl
  | cons d ds ih =>
    obtain ⟨⟨spacing, selector, member⟩, others⟩ := List.forall_mem_cons.1 known
    obtain ⟨added, held, flag, fits⟩ := ih others
    cases d with
    | opening | closing => cases spacing
    | spacing d =>
      cases spaced with
      | false =>
        refine ⟨added, held, flag, fun a stands => ?_⟩
        rw [directAll_cons]
        exact fits a stands
      | true =>
        let control : Doc := match side with
          | .before => .before d
          | .after => .after d
        have one : own [control] := by
          cases side with
          | before => exact gathers.fragment (.before member)
          | after => exact gathers.fragment (.after member)
        refine ⟨Pieces.append ⟨[control], trivia⟩ added, ?_, flag, fun a stands => ?_⟩
        · rw [Pieces.toList_append]
          exact gathers.append one held
        · have rest := fits _ (stands.extend ⟨[control], trivia⟩)
          rw [directAll_cons, ← Assembly.extend_extend, ← rest, ← stands.addControl_eq]
          cases side <;> rfl

theorem adds_treated {content : Progress → Walked Progress} (adds : Adds children own content)
    {treatment : Treatment} (held : ∀ d, treatment = .replaced d → Fragment ctx d) :
    Adds children own fun p => Context.treated treatment (fun a => content (p.1, a)) p.2 := by
  intro vs within trivia
  have alone := adds vs within false
  cases treatment with
  | normal => exact adds vs within trivia
  | omitted =>
    rcases alone with misfit | ⟨id, astray⟩ | ⟨rest, added, left, -, fits⟩
    · refine addsAt_misfit fun a => ?_
      simp only [Context.treated, misfit {} Assembly.stands_empty]
      rfl
    · refine addsAt_astray id fun a _ => ?_
      simp only [Context.treated, astray {} Assembly.stands_empty]
      rfl
    · refine addsAt_nothing gathers.nil left fun a => ?_
      simp only [Context.treated, fits {} Assembly.stands_empty]
      rfl
  | replaced d =>
    rcases alone with misfit | ⟨id, astray⟩ | ⟨rest, added, left, -, fits⟩
    · refine addsAt_misfit fun a => ?_
      simp only [Context.treated, misfit {} Assembly.stands_empty]
      rfl
    · refine addsAt_astray id fun a _ => ?_
      simp only [Context.treated, astray {} Assembly.stands_empty]
      rfl
    · refine addsAt_push (gathers.fragment (held d rfl)) left false fun a _ => ?_
      simp only [Context.treated, fits {} Assembly.stands_empty]
      rfl

theorem adds_emit (spaced : Spaced ctx) {content : Progress → Walked Progress}
    (adds : Adds children own content) (label literal : Option String) :
    Adds children own fun p => ctx.emit label literal (fun a => content (p.1, a)) p.2 := by
  intro vs within trivia
  unfold Context.emit
  split_ifs with inTrivia
  · exact adds vs within trivia
  · have known : ∀ side, ∀ selector ∈ selectors label literal, ∀ d ∈ ctx.directives side selector,
        d.isSpacing ∧ ∃ selector, d ∈ ctx.directives side selector := by
      intro side selector reaches d member
      refine ⟨spaced side selector ?_ ?_ d member, selector, member⟩
      · rintro rfl
        simp [selectors] at reaches
      · rintro rfl
        simp [selectors] at reaches
    have replaced : ∀ d,
        ctx.style.treatment ctx.rule label literal = .replaced d → Fragment ctx d :=
      fun d same => .replaced same
    have before : ∀ d ∈ (ctx.itemDirectives label literal).1,
        d.isSpacing ∧ ∃ selector, d ∈ ctx.directives .before selector := by
      intro d member
      obtain ⟨selector, reaches, inside⟩ := exists_of_mem_before member
      exact known .before selector reaches d inside
    have after : ∀ d ∈ (ctx.itemDirectives label literal).2,
        d.isSpacing ∧ ∃ selector, d ∈ ctx.directives .after selector := by
      intro d member
      obtain ⟨selector, reaches, inside⟩ := exists_of_mem_after member
      exact known .after selector reaches d inside
    have behind : ∀ wanted, Adds children own fun p =>
        (Context.directAll .after wanted (ctx.itemDirectives label literal).2 p.2).map fun a =>
          (p.1, a) := by
      intro wanted rest left trivia
      obtain ⟨added, held, -, fits⟩ := exists_extend_directAll gathers .after wanted trivia after
      refine addsAt_fits rest added left held fun a stands => ?_
      simp only [fits a stands]
      rfl
    have around : ∀ wanted, AddsAt children own trivia fun a =>
        (Context.directAll .before wanted (ctx.itemDirectives label literal).1 a).andThen fun a =>
          (Context.treated (ctx.style.treatment ctx.rule label literal) (fun a => content (vs, a))
            a).andThen fun q =>
              (Context.directAll .after wanted (ctx.itemDirectives label literal).2 q.2).map
                fun a => (q.1, a) := by
      intro wanted
      obtain ⟨added, held, -, fits⟩ := exists_extend_directAll gathers .before wanted trivia before
      have front : AddsAt children own trivia fun a => .fits (vs, a.extend added) :=
        addsAt_fits vs added within held fun _ _ => rfl
      have inside := front.andThen gathers.append (adds_treated gathers adds replaced)
      refine (inside.andThen gathers.append (behind wanted)).congr fun a stands => ?_
      rw [fits a stands]
      rfl
    exact around _

/-! ## Occurrences -/

theorem adds_once (spaced : Spaced ctx) {i : Item Grammar.Term}
    (adds : Adds children own (term ctx i.label i.term)) : Adds children own (once ctx i) :=
  fun vs within trivia => (adds_slot gathers i.slot vs within trivia).andThen gathers.append
    (adds_emit gathers spaced adds i.label i.term.literal?)

theorem adds_suppressed (spaced : Spaced ctx) (slot : Separator) (label : Option String)
    (t : Grammar.Term) : Adds children own (ctx.suppressed slot label t) := by
  have written : Adds children own fun p =>
      .fits (p.1, p.2.addContent (regenerate ctx.style ctx.rule t)) := fun vs within _ =>
    addsAt_push (gathers.fragment (.regenerated t)) within false fun _ _ => rfl
  have around := adds_emit gathers spaced written label t.literal?
  intro vs within trivia
  unfold Context.suppressed
  dsimp only
  split_ifs
  · exact around vs within trivia
  · exact (adds_addSlot gathers slot within trivia).andThen gathers.append around

theorem adds_times {f : Progress → Walked Progress} (adds : Adds children own f) (count : Nat) :
    Adds children own (times f count) := by
  induction count with
  | zero => exact fun vs within _ => addsAt_nothing gathers.nil within fun _ => rfl
  | succ count ih => exact fun vs within trivia => (adds vs within trivia).andThen gathers.append ih

/-- A repetition takes as many occurrences everywhere, or goes astray everywhere. -/
theorem exists_repeated {f : Progress → Walked Progress} (adds : Adds children own f)
    {vs : List Visit} (within : vs ⊆ children) (trivia : Bool) :
    (∃ id, ∀ a, a.Stands trivia → repeated f (vs, a) = .astray id) ∨
      ∃ count rest added, rest ⊆ children ∧ own (Pieces.toList added) ∧
        ∀ a, a.Stands trivia → repeated f (vs, a) = .fits (count, rest, a.extend added) := by
  induction size : vs.length using Nat.strongRecOn generalizing vs trivia with
  | ind n ih =>
    subst size
    rcases adds vs within trivia with misfit | ⟨id, astray⟩ | ⟨rest, added, left, held, fits⟩
    · dsimp only at misfit
      refine .inr ⟨0, vs, ⟨[], trivia⟩, within, gathers.nil, fun a stands => ?_⟩
      rw [repeated, misfit a stands, stands.extend_eq]
    · dsimp only at astray
      refine .inl ⟨id, fun a stands => ?_⟩
      rw [repeated, astray a stands]
    · dsimp only at fits
      by_cases fewer : rest.length < vs.length
      · rcases ih _ fewer left added.trivia rfl with
          ⟨id, astray⟩ | ⟨count, rest', added', left', held', fits'⟩
        · refine .inl ⟨id, fun a stands => ?_⟩
          rw [repeated, fits a stands]
          dsimp only
          rw [if_pos fewer, astray _ (stands.extend added)]
          rfl
        · refine .inr ⟨count + 1, rest', added.append added', left', ?_, fun a stands => ?_⟩
          · rw [Pieces.toList_append]
            exact gathers.append held held'
          · rw [repeated, fits a stands]
            dsimp only
            rw [if_pos fewer, fits' _ (stands.extend added), Assembly.extend_extend]
            rfl
      · refine .inr ⟨1, rest, added, left, held, fun a stands => ?_⟩
        rw [repeated, fits a stands]
        dsimp only
        rw [if_neg fewer]

theorem adds_quantified {f : Progress → Walked Progress} (adds : Adds children own f)
    (quantifier : Quantifier) : Adds children own (quantified quantifier f) := by
  intro vs within trivia
  have many : AddsAt children own trivia fun a => (repeated f (vs, a)).andThen fun r =>
      if quantifier.least ≤ r.1 then .fits r.2 else .misfit := by
    rcases exists_repeated gathers adds within trivia with
      ⟨id, astray⟩ | ⟨count, rest, added, left, held, fits⟩
    · refine addsAt_astray id fun a stands => ?_
      simp only [astray a stands, Walked.andThen]
    by_cases enough : quantifier.least ≤ count
    · refine addsAt_fits rest added left held fun a stands => ?_
      simp only [fits a stands, Walked.andThen, if_pos enough]
    · refine .inl fun a stands => ?_
      simp only [fits a stands, Walked.andThen, if_neg enough]
  unfold quantified
  split
  · exact adds vs within trivia
  · exact (adds vs within trivia).orElse (addsAt_nothing gathers.nil within fun _ => rfl)
  · exact many
  · exact many

/-! ## Productions -/

theorem adds_item (spaced : Spaced ctx) {i : Item Grammar.Term}
    (adds : Adds children own (term ctx i.label i.term)) : Adds children own (item ctx i) := by
  cases shown : i.suppressed with
  | false =>
    have all := adds_quantified gathers (adds_once gathers spaced adds) i.quantifier
    intro vs within trivia
    simp only [item_eq ctx shown]
    exact all vs within trivia
  | true =>
    have all := adds_times gathers (adds_suppressed gathers spaced i.slot i.label i.term)
      i.quantifier.least
    obtain ⟨slot, label, t, quantifier, suppressed⟩ := i
    obtain rfl : suppressed = true := shown
    intro vs within trivia
    simp only [item, if_true]
    exact all vs within trivia

theorem adds_items {is : List (Item Grammar.Term)}
    (adds : ∀ i ∈ is, Adds children own (item ctx i)) : Adds children own (items ctx is) := by
  induction is with
  | nil => exact fun vs within _ => addsAt_nothing gathers.nil within fun _ => rfl
  | cons i is ih =>
    obtain ⟨first, others⟩ := List.forall_mem_cons.1 adds
    exact fun vs within trivia => (first vs within trivia).andThen gathers.append (ih others)

theorem adds_production_of_terms (spaced : Spaced ctx) {p : Production Grammar.Term}
    (adds : ∀ i ∈ p.items, Adds children own (term ctx i.label i.term)) :
    Adds children own (production ctx p) := by
  obtain ⟨is, trailing⟩ := p
  have all : Adds children own (items ctx is) :=
    adds_items gathers fun i member => adds_item gathers spaced (adds i member)
  exact fun vs within trivia =>
    (all vs within trivia).andThen gathers.append (adds_slot gathers trailing)

theorem adds_term (spaced : Spaced ctx) (t : Grammar.Term) :
    ∀ label, Adds children own (term ctx label t) := by
  induction t using Term.inductionOn with
  | rule | literal | pattern => exact fun label => adds_leaf gathers label _
  | group ps ih =>
    intro label
    exact adds_productions fun p member =>
      adds_production_of_terms gathers spaced fun i inside => ih p member i inside i.label

/-- The items of a production add the same pieces wherever they stand. -/
theorem adds_production (spaced : Spaced ctx) (p : Production Grammar.Term) :
    Adds children own (production ctx p) :=
  adds_production_of_terms gathers spaced fun i _ => adds_term gathers spaced i.term i.label

end Walk

end Reprint.Unparse
