import Reprint.Proofs.Assembly.Rollback
import Reprint.Proofs.Grammar
import Reprint.Unparse.Journal

/-!
# The journal makes up for copies

The walk by values keeps the assembly from before everything that need not fit.  On one
assembly nothing is kept but the journal.  Both come to the same (`rule_eq`): the same
document, or none where nothing fits, or the same reason to stop, and no mark is ever
looked for beyond the journal.

Work mirrors an outcome by value if it does the same to every assembly, whatever its
journal holds and however many marks are out, and writes down what undoes it (`Mirrors`).
So what was tried can be undone, and the rest goes on from the assembly as it was
(`Mirrors.tried`).
-/

namespace Reprint.Unparse.Journal

open Assembly (Follows)

variable {α β : Type}

/-! ## Work -/

section On

variable (a : Assembly)

theorem on_bind (work : Work α) (f : α → Work β) :
    (work >>= f).on a = match work.on a with
      | .ok (some r, b) => (f r).on b
      | .ok (none, b) => .ok (none, b)
      | .error stop => .error stop := by
  change Except.bind (work.on a) _ = _
  rcases work.on a with stop | ⟨_ | r, b⟩ <;> rfl

theorem on_get : Work.on get a = .ok (some a, a) := rfl

theorem on_set (b : Assembly) : Work.on (set b) a = .ok (some (), b) := rfl

theorem on_modify (f : Assembly → Assembly) : Work.on (modify f) a = .ok (some (), f a) := rfl

theorem on_lift (x : Except Stop α) :
    Work.on (liftM x) a = match x with
      | .ok r => .ok (some r, a)
      | .error stop => .error stop := by
  cases x <;> rfl

theorem on_mk (x : Except Stop (Option α)) :
    Work.on (OptionT.mk (liftM x)) a = match x with
      | .ok r => .ok (r, a)
      | .error stop => .error stop := by
  cases x <;> rfl

theorem on_make (change : Assembly → Except NestingError Assembly) :
    (make change).on a = match change a with
      | .ok b => .ok (some (), b)
      | .error e => .error (.broken e) := by
  simp only [make, on_bind, on_get, on_lift, on_set]
  cases change a <;> rfl

theorem on_aside (work : Work α) :
    (aside work).on a = match work.on {} with
      | .ok (r, _) => .ok (r, a)
      | .error stop => .error stop := by
  unfold aside
  cases work.on {} <;> rfl

theorem on_tried (work : Work α) :
    (tried work).on a = match work.on a.mark.2 with
      | .ok (some r, b) =>
        match b.commit? a.mark.1 with
        | some c => .ok (some (some r), c)
        | none => .error (.unmarked a.mark.1)
      | .ok (none, b) => .ok (some none, b.rollback a.mark.1)
      | .error stop => .error stop := by
  unfold Work.on tried
  simp only [OptionT.run_lift, StateT.run_bind, StateT.run_modifyGet, pure_bind]
  rcases work.run.run a.mark.2 with stop | ⟨_ | r, b⟩
  · rfl
  · rfl
  · change Except.bind (Except.bind (commit a.mark.1 b) _) _ = match b.commit? a.mark.1 with
      | some c => .ok (some (some r), c)
      | none => .error (.unmarked a.mark.1)
    unfold commit
    cases b.commit? a.mark.1 <;> rfl

end On

/-! ## Changes -/

/-- A change is written down, and it does the same without a journal. -/
def Noted (change : Assembly → Except NestingError Assembly) : Prop :=
  ∀ a, (change a).map Assembly.bare = change a.bare ∧
    ∀ b, change a = .ok b → ∃ undos, Follows a b undos

open Assembly in
theorem noted_attempt (c : Change) : Noted fun a => a.attempt c := by
  refine fun a => ⟨map_bare_attempt a c, fun b made => ?_⟩
  obtain ⟨undos, follows⟩ := exists_follows_change a c
  rw [change_of_ok made] at follows
  exact ⟨undos, follows⟩

theorem noted_ok : Noted .ok := fun a => ⟨rfl, fun b same => by cases same; exact ⟨[], .refl a⟩⟩

theorem Noted.bind {first second : Assembly → Except NestingError Assembly} (own : Noted first)
    (next : Noted second) : Noted fun a => (first a).bind second := by
  intro a
  obtain ⟨same, follows⟩ := own a
  beta_reduce
  rw [← same]
  cases made : first a with
  | error e => exact ⟨rfl, nofun⟩
  | ok b =>
    obtain ⟨older, since⟩ := follows b made
    obtain ⟨same, follows⟩ := next b
    refine ⟨same, fun c done => ?_⟩
    obtain ⟨newer, further⟩ := follows c done
    exact ⟨_, since.trans further⟩

theorem noted_direct (side : Side) (spaced : Bool) (d : Directive) :
    Noted fun a => Context.direct side spaced a d := by
  cases d with
  | spacing d =>
    cases spaced with
    | true => exact noted_attempt (.control _)
    | false => exact noted_ok
  | opening b => exact noted_attempt (.opening b)
  | closing name => exact noted_attempt (.closing name)

theorem noted_foldlM (side : Side) (spaced : Bool) (ds : List Directive) :
    Noted fun a => ds.foldlM (Context.direct side spaced) a := by
  induction ds with
  | nil => exact noted_ok
  | cons d ds ih => exact (noted_direct side spaced d).bind ih

/-! ## Mirroring -/

/-- How work ends that comes to an outcome by value.  It writes down what undoes it. -/
inductive Ends (a : Assembly) : Walked (α × Assembly) → Except Stop (Option α × Assembly) → Prop
  | fits {r : α} {b : Assembly} {undos : List Undo} :
      Follows a b undos → Ends a (.fits (r, b.bare)) (.ok (some r, b))
  | misfit {b : Assembly} {undos : List Undo} :
      Follows a b undos → Ends a .misfit (.ok (none, b))
  | broken (e : NestingError) : Ends a (.broken e) (.error (.broken e))
  | astray (id : Nat) : Ends a (.astray id) (.error (.astray id))

/-- What was done before is undone last. -/
theorem Ends.after {a b : Assembly} {undos : List Undo} {value : Walked (α × Assembly)}
    {outcome : Except Stop (Option α × Assembly)} (ends : Ends b value outcome)
    (follows : Follows a b undos) : Ends a value outcome := by
  cases ends with
  | fits further => exact .fits (follows.trans further)
  | misfit further => exact .misfit (follows.trans further)
  | broken e => exact .broken e
  | astray id => exact .astray id

/-- Work does to an assembly what is said by value of what stands in it. -/
def Mirrors (work : Work α) (value : Assembly → Walked (α × Assembly)) : Prop :=
  ∀ a, a.Settled → Ends a (value a.bare) (work.on a)

/-- The same of work that gives nothing but the assembly. -/
def Does (work : Work Unit) (value : Assembly → Walked Assembly) : Prop :=
  Mirrors work fun a => (value a).map fun b => ((), b)

namespace Mirrors

variable {work : Work α} {value : Assembly → Walked (α × Assembly)}

theorem congr {other : Assembly → Walked (α × Assembly)} (mirrors : Mirrors work value)
    (same : ∀ a, other a = value a) : Mirrors work other := by
  intro a settled
  rw [same]
  exact mirrors a settled

theorem pure (r : α) : Mirrors (Pure.pure r) fun a => .fits (r, a) :=
  fun a _ => .fits (.refl a)

theorem failure : Mirrors (failure : Work α) fun _ => .misfit := fun a _ => .misfit (.refl a)

theorem bind {next : α → Work β} {further : α → Assembly → Walked (β × Assembly)}
    (first : Mirrors work value) (second : ∀ r, Mirrors (next r) (further r)) :
    Mirrors (work >>= next) fun a => (value a).andThen fun p => further p.1 p.2 := by
  intro a settled
  have ended := first a settled
  rw [on_bind]
  beta_reduce
  generalize value a.bare = v, work.on a = outcome at ended ⊢
  cases ended with
  | @fits r b undos follows => exact (second r b (follows.settled settled)).after follows
  | misfit follows => exact .misfit follows
  | broken e => exact .broken e
  | astray id => exact .astray id

/-- What does not fit is undone to the last, and what fits is kept. -/
theorem tried (mirrors : Mirrors work value) :
    Mirrors (tried work) fun a =>
      ((value a).map fun p => (some p.1, p.2)).orElse fun _ => .fits (none, a) := by
  intro a settled
  have ended : Ends a.mark.2 (value a.bare) (work.on a.mark.2) :=
    mirrors a.mark.2 fun none => absurd none (Nat.succ_ne_zero _)
  rw [on_tried]
  beta_reduce
  generalize value a.bare = v, work.on a.mark.2 = outcome at ended ⊢
  cases ended with
  | @fits r b undos follows =>
    obtain ⟨kept, since⟩ := follows.commit settled
    simp only [kept]
    exact .fits since
  | misfit follows =>
    simp only [follows.rollback settled]
    exact .fits (.refl a)
  | broken e => exact .broken e
  | astray id => exact .astray id

theorem aside (mirrors : Mirrors work value) :
    Mirrors (aside work) fun a => (value {}).map fun p => (p.1, a) := by
  intro a _
  have ended : Ends {} (value {}) (work.on {}) := mirrors {} fun _ => rfl
  rw [on_aside]
  beta_reduce
  generalize value {} = v, work.on {} = outcome at ended ⊢
  cases ended with
  | fits => exact .fits (.refl a)
  | misfit => exact .misfit (.refl a)
  | broken e => exact .broken e
  | astray id => exact .astray id

/-- The tree of a child gives the same, whatever stands in the assembly. -/
theorem told (x : Walked α) : Mirrors (OptionT.mk (liftM (told x))) fun a => x.map fun r => (r, a) := by
  intro a _
  rw [on_mk]
  cases x with
  | fits r => exact .fits (.refl a)
  | misfit => exact .misfit (.refl a)
  | broken e => exact .broken e
  | astray id => exact .astray id

theorem ofExcept (x : Except NestingError α) :
    Mirrors (liftM (x.mapError Stop.broken)) fun a => (Walked.ofExcept x).map fun r => (r, a) := by
  intro a _
  rw [on_lift]
  cases x with
  | ok r => exact .fits (.refl a)
  | error e => exact .broken e

end Mirrors

namespace Does

theorem make {change : Assembly → Except NestingError Assembly} (noted : Noted change) :
    Does (make change) fun a => .ofExcept (change a) := by
  intro a _
  obtain ⟨same, follows⟩ := noted a
  rw [on_make]
  beta_reduce
  rw [← same]
  cases made : change a with
  | ok b =>
    obtain ⟨undos, follows⟩ := follows b made
    exact .fits follows
  | error e => exact .broken e

theorem modify {change : Assembly → Assembly} (noted : Noted fun a => .ok (change a)) :
    Does (modify change) fun a => .fits (change a) := by
  intro a _
  obtain ⟨same, follows⟩ := noted a
  obtain ⟨undos, follows⟩ := follows _ rfl
  rw [on_modify]
  beta_reduce
  rw [← Except.ok.inj same]
  exact .fits follows

theorem bind {work : Work Unit} {next : Work α} {value : Assembly → Walked Assembly}
    {further : Assembly → Walked (α × Assembly)} (does : Does work value) (rest : Mirrors next further) :
    Mirrors (work >>= fun _ => next) fun a => (value a).andThen further :=
  (Mirrors.bind does fun _ => rest).congr fun a => by cases value a <;> rfl

theorem andThen {first second : Work Unit} {value further : Assembly → Walked Assembly}
    (does : Does first value) (rest : Does second further) :
    Does (first >>= fun _ => second) fun a => (value a).andThen further :=
  (does.bind rest).congr fun a => by
    beta_reduce
    cases value a <;> rfl

end Does

/-! ## Parts of the walk -/

section Parts

variable (ctx : Context)

theorem does_directAll (side : Side) (spaced : Bool) (ds : List Directive) :
    Does (directAll side spaced ds) (Context.directAll side spaced ds) :=
  .make (noted_foldlM side spaced ds)

theorem does_boundary (selector : Selector) : Does (boundary ctx selector) (ctx.boundary selector) := by
  unfold boundary
  split_ifs with inTrivia
  · exact (Mirrors.pure ()).congr fun a => by rw [Context.boundary, if_pos inTrivia]; rfl
  · exact (Does.andThen (does_directAll _ _ _) (does_directAll _ _ _)).congr fun a => by
      rw [Context.boundary, if_neg inTrivia]

theorem mirrors_treated {content : Work (List Visit)} {value : Assembly → Walked Progress}
    (mirrors : Mirrors content value) (treatment : Treatment) :
    Mirrors (treated treatment content) (Context.treated treatment value) := by
  cases treatment with
  | normal => exact mirrors
  | omitted => exact mirrors.aside
  | replaced d =>
    have added := Does.modify (noted_attempt (.content d))
    refine (mirrors.aside.bind fun rest => added.bind (.pure rest)).congr fun a => ?_
    rw [Context.treated]
    cases value {} <;> rfl

theorem mirrors_emit {content : Work (List Visit)} {value : Assembly → Walked Progress}
    (mirrors : Mirrors content value) (label literal : Option String) :
    Mirrors (emit ctx label literal content) (ctx.emit label literal value) := by
  unfold emit
  split_ifs with inTrivia
  · exact mirrors.congr fun a => by rw [Context.emit, if_pos inTrivia]
  · have closed (spaced : Bool) (after : List Directive) (rest : List Visit) :=
      (does_directAll .after spaced after).bind (.pure rest)
    refine Mirrors.congr ((does_directAll _ _ _).bind
      ((mirrors_treated mirrors _).bind (closed _ _))) fun a => ?_
    rw [Context.emit, if_neg inTrivia]
    rfl

theorem does_addSlot (sep : Separator) : Does (addSlot ctx sep) fun a => .fits (ctx.addSlot sep a) :=
  .modify (noted_attempt (.control _))

theorem mirrors_addSlot (sep : Separator) (vs : List Visit) :
    Mirrors (do addSlot ctx sep; return vs) fun a => .fits (vs, ctx.addSlot sep a) :=
  (does_addSlot ctx sep).bind (.pure vs)

theorem mirrors_innerSlot (sep : Separator) (vs : List Visit) :
    Mirrors (innerSlot ctx sep vs) fun a => ctx.innerSlot sep (vs, a) := by
  cases vs with
  | nil =>
    by_cases required : sep = .required
    · simpa only [innerSlot, Context.innerSlot, if_pos required] using .failure
    · simpa only [innerSlot, Context.innerSlot, if_neg required] using mirrors_addSlot ctx sep []
  | cons v rest =>
    by_cases blank : ctx.isBlankToken v.child
    · simpa only [innerSlot, Context.innerSlot, if_pos blank] using mirrors_addSlot ctx sep rest
    · by_cases required : sep = .required
      · simpa only [innerSlot, Context.innerSlot, if_neg blank, if_pos required] using .failure
      · simpa only [innerSlot, Context.innerSlot, if_neg blank, if_neg required]
          using mirrors_addSlot ctx sep (v :: rest)

/-- Trivia is kept with the document that its own tree gives. -/
theorem mirrors_trivia (required : Bool) (inner : Walked Assembly) (rest : List Visit) :
    Mirrors
      (do
        let own ← OptionT.mk (told inner)
        let d ← own.finish.mapError Stop.broken
        modify fun a => a.addTrivia (.triviaSlot d required)
        return rest)
      fun a => inner.andThen fun own =>
        (Walked.ofExcept own.finish).map fun d => (rest, a.addTrivia (.triviaSlot d required)) := by
  have added (d : Doc) := Does.modify (noted_attempt (.trivia (.triviaSlot d required)))
  refine ((Mirrors.told inner).bind fun own =>
    (Mirrors.ofExcept own.finish).bind fun d => (added d).bind (.pure rest)).congr fun a => ?_
  cases inner with
  | fits own =>
    simp only [Walked.map, Walked.andThen]
    cases own.finish <;> rfl
  | misfit | broken | astray => rfl

theorem mirrors_outerSlot (sep : Separator) (vs : List Visit) :
    Mirrors (outerSlot ctx sep vs) fun a => ctx.outerSlot sep (vs, a) := by
  rcases vs with _ | ⟨⟨c, inner⟩, rest⟩
  · exact mirrors_addSlot ctx sep []
  · cases c with
    | token | node => exact mirrors_addSlot ctx sep (_ :: rest)
    | trivia label body =>
      -- Whether trivia was kept last is the same with a journal and without.
      intro a settled
      have same : a.bare.lastWasTrivia = a.lastWasTrivia := rfl
      simp only [outerSlot, Context.outerSlot, on_bind, on_get, same]
      cases kept : ctx.keeps a.lastWasTrivia body with
      | error id => exact .astray id
      | ok k =>
        cases k with
        | false => exact mirrors_addSlot ctx sep rest a settled
        | true => exact mirrors_trivia (sep == .required) (inner true) rest a settled

theorem mirrors_slot (sep : Separator) (vs : List Visit) :
    Mirrors (slot ctx sep vs) fun a => ctx.slot sep (vs, a) := by
  by_cases tight : sep = .none
  · simpa only [slot, Context.slot, if_pos tight] using .pure vs
  · by_cases inTrivia : ctx.inTrivia
    · simpa only [slot, Context.slot, if_neg tight, if_pos inTrivia] using mirrors_innerSlot ctx sep vs
    · simpa only [slot, Context.slot, if_neg tight, if_neg inTrivia] using mirrors_outerSlot ctx sep vs

theorem mirrors_leaf (label : Option String) (t : Grammar.Term) (vs : List Visit) :
    Mirrors (leaf ctx label t vs) fun a => ctx.leaf label t (vs, a) := by
  rcases vs with _ | ⟨⟨c, inner⟩, rest⟩
  · exact .failure
  by_cases other : c.label ≠ label
  · simpa only [leaf, Context.leaf, if_pos other] using .failure
  simp only [leaf, Context.leaf, if_neg other]
  have written (text : String) :
      Mirrors (do modify fun a => a.addContent (ctx.token text); return rest)
        fun a => .fits (rest, a.addContent (ctx.token text)) :=
    (Does.modify (noted_attempt (.content (ctx.token text)))).bind (.pure rest)
  cases t with
  | group ps => exact .failure
  | rule id =>
    cases c with
    | token | trivia => exact .failure
    | node _ body =>
      by_cases called : body.rule = id
      · simp only [if_pos called]
        refine ((Mirrors.told (inner ctx.inTrivia)).bind fun own =>
          (Does.make (noted_attempt (.merging own))).bind (.pure rest)).congr fun a => ?_
        cases inner ctx.inTrivia <;> rfl
      · simpa only [if_neg called] using .failure
  | literal text =>
    cases c with
    | node | trivia => exact .failure
    | token _ span =>
      by_cases found : span.slice? ctx.source = some text
      · simpa only [if_pos found] using written text
      · simpa only [if_neg found] using .failure
  | pattern p =>
    cases c with
    | node | trivia => exact .failure
    | token _ span =>
      cases found : span.slice? ctx.source with
      | none => simpa only [found] using .failure
      | some text =>
        by_cases all : p.takesAll text.toList
        · simpa only [found, if_pos all] using written text
        · simpa only [found, if_neg all] using .failure

theorem mirrors_suppressed (sep : Separator) (label : Option String) (t : Grammar.Term) (vs : List Visit) :
    Mirrors (suppressed ctx sep label t vs) fun a => ctx.suppressed sep label t (vs, a) := by
  have added := Does.modify (noted_attempt (.content (regenerate ctx.style ctx.rule t)))
  have emitted := mirrors_emit ctx (added.bind (.pure vs)) label t.literal?
  unfold suppressed
  by_cases tight : sep = .none
  · rw [if_neg (not_not.2 tight)]
    refine emitted.congr fun a => ?_
    simp only [Context.suppressed, if_pos tight]
    rfl
  · rw [if_pos tight]
    refine ((does_addSlot ctx sep).bind emitted).congr fun a => ?_
    simp only [Context.suppressed, if_neg tight]
    rfl

/-! ## Productions -/

variable {once : List Visit → Work (List Visit)} {value : Progress → Walked Progress}
  (mirrors : ∀ vs, Mirrors (once vs) fun a => value (vs, a))
include mirrors

theorem mirrors_times (n : Nat) (vs : List Visit) :
    Mirrors (times once n vs) fun a => Unparse.times value n (vs, a) := by
  induction n generalizing vs with
  | zero => exact .pure vs
  | succ n ih => exact (mirrors vs).bind ih

/-- The repetition by value, with the document behind what else it gives. -/
theorem mirrors_repeated (vs : List Visit) :
    Mirrors (repeated once vs) fun a =>
      (Unparse.repeated value (vs, a)).map fun r => ((r.1, r.2.1), r.2.2) := by
  induction size : vs.length using Nat.strongRecOn generalizing vs with
  | ind n ih =>
    subst size
    let next (r : Option (List Visit)) (a : Assembly) : Walked ((Nat × List Visit) × Assembly) :=
      r.elim (.fits ((0, vs), a)) fun rest =>
        if rest.length < vs.length then
          (Unparse.repeated value (rest, a)).map fun r => ((r.1 + 1, r.2.1), r.2.2)
        else .fits ((1, rest), a)
    rw [repeated]
    refine (@Mirrors.bind _ _ _ _ _ next (mirrors vs).tried fun r => ?_).congr fun a => ?_
    · cases r with
      | none => exact .pure (0, vs)
      | some rest =>
        by_cases fewer : rest.length < vs.length
        · simp only [next, Option.elim_some, if_pos fewer]
          refine ((ih _ fewer rest rfl).bind fun r => .pure (r.1 + 1, r.2)).congr fun a => ?_
          cases Unparse.repeated value (rest, a) <;> rfl
        · simp only [next, Option.elim_some, if_neg fewer]
          exact .pure (1, rest)
    · rw [Unparse.repeated]
      cases value (vs, a) with
      | fits q =>
        simp only [next, Option.elim_some, Walked.map, Walked.andThen, Walked.orElse]
        split_ifs
        · cases Unparse.repeated value (q.1, q.2) <;> rfl
        · rfl
      | misfit | broken | astray => rfl

theorem mirrors_quantified (quantifier : Quantifier) (vs : List Visit) :
    Mirrors (quantified quantifier once vs) fun a => Unparse.quantified quantifier value (vs, a) := by
  have repeats (least : Nat) : Mirrors
      (do
        let r ← repeated once vs
        if least ≤ r.1 then return r.2 else failure)
      fun a => (Unparse.repeated value (vs, a)).andThen fun r =>
        if least ≤ r.1 then .fits r.2 else .misfit := by
    let next (r : Nat × List Visit) (a : Assembly) : Walked Progress :=
      if least ≤ r.1 then .fits (r.2, a) else .misfit
    refine (@Mirrors.bind _ _ _ _ _ next (mirrors_repeated mirrors vs) fun r => ?_).congr fun a => ?_
    · by_cases enough : least ≤ r.1
      · simpa only [next, if_pos enough] using .pure r.2
      · simpa only [next, if_neg enough] using .failure
    · cases Unparse.repeated value (vs, a) <;> rfl
  cases quantifier with
  | one => exact mirrors vs
  | optional =>
    refine ((mirrors vs).tried.bind fun r => .pure (r.getD vs)).congr fun a => ?_
    rw [Unparse.quantified]
    cases value (vs, a) <;> rfl
  | many => exact repeats _
  | some => exact repeats _

end Parts

section Productions

variable {ctx : Context}

theorem mirrors_item {i : Item Grammar.Term}
    (mirrors : ∀ vs, Mirrors (term ctx i.label i.term vs) fun a => Unparse.term ctx i.label i.term (vs, a))
    (vs : List Visit) : Mirrors (item ctx i vs) fun a => Unparse.item ctx i (vs, a) := by
  obtain ⟨sep, label, t, quantifier, isSuppressed⟩ := i
  unfold item Unparse.item
  cases isSuppressed with
  | true => exact mirrors_times (mirrors_suppressed ctx sep label t) quantifier.least vs
  | false =>
    simp only [if_neg Bool.false_ne_true]
    refine mirrors_quantified (fun vs => ?_) quantifier vs
    exact (mirrors_slot ctx sep vs).bind fun rest => mirrors_emit ctx (mirrors rest) label t.literal?

theorem mirrors_items {is : List (Item Grammar.Term)}
    (mirrors : ∀ i ∈ is, ∀ vs, Mirrors (item ctx i vs) fun a => Unparse.item ctx i (vs, a))
    (vs : List Visit) : Mirrors (items ctx is vs) fun a => Unparse.items ctx is (vs, a) := by
  induction is generalizing vs with
  | nil => exact .pure vs
  | cons i is ih =>
    obtain ⟨first, others⟩ := List.forall_mem_cons.1 mirrors
    exact (first vs).bind (ih others)

theorem mirrors_production {p : Production Grammar.Term}
    (mirrors : ∀ i ∈ p.items, ∀ vs, Mirrors (item ctx i vs) fun a => Unparse.item ctx i (vs, a))
    (vs : List Visit) : Mirrors (production ctx p vs) fun a => Unparse.production ctx p (vs, a) := by
  obtain ⟨is, trailing⟩ := p
  exact (mirrors_items mirrors vs).bind (mirrors_slot ctx trailing)

theorem mirrors_productions {ps : List (Production Grammar.Term)}
    (mirrors : ∀ p ∈ ps, ∀ vs, Mirrors (production ctx p vs) fun a => Unparse.production ctx p (vs, a))
    (vs : List Visit) : Mirrors (productions ctx ps vs) fun a => Unparse.productions ctx ps (vs, a) := by
  induction ps with
  | nil => exact .failure
  | cons p ps ih =>
    obtain ⟨first, others⟩ := List.forall_mem_cons.1 mirrors
    let next (r : Option (List Visit)) (a : Assembly) : Walked Progress :=
      r.elim (Unparse.productions ctx ps (vs, a)) fun rest => .fits (rest, a)
    rw [productions]
    refine (@Mirrors.bind _ _ _ _ _ next (first vs).tried fun r => ?_).congr fun a => ?_
    · cases r with
      | some rest => exact .pure rest
      | none => exact ih others
    · rw [Unparse.productions]
      cases Unparse.production ctx p (vs, a) <;> rfl

theorem mirrors_term (t : Grammar.Term) : ∀ label vs,
    Mirrors (term ctx label t vs) fun a => Unparse.term ctx label t (vs, a) := by
  induction t using Term.inductionOn with
  | rule | literal | pattern => exact fun label => mirrors_leaf ctx label _
  | group ps ih =>
    exact fun label => mirrors_productions fun p member =>
      mirrors_production fun i inside => mirrors_item (ih p member i inside i.label)

end Productions

/-! ## Nodes -/

theorem does_wholly (ctx : Context) (children : List Visit) (p : Production Grammar.Term) :
    Does (wholly ctx children p) fun a => (ctx.boundary .ruleStart a).andThen fun a =>
      (Unparse.production ctx p (children, a)).andThen fun q =>
        if q.1.isEmpty then ctx.boundary .ruleEnd q.2 else .misfit := by
  let ending (rest : List Visit) (a : Assembly) : Walked Assembly :=
    if rest.isEmpty then ctx.boundary .ruleEnd a else .misfit
  have ended (rest : List Visit) :
      Does (if rest.isEmpty then boundary ctx .ruleEnd else failure) (ending rest) := by
    by_cases none : rest.isEmpty
    · simpa only [ending, if_pos none] using does_boundary ctx .ruleEnd
    · simpa only [ending, if_neg none] using .failure
  have items : Mirrors (production ctx p children) fun a => Unparse.production ctx p (children, a) :=
    mirrors_production (fun i _ => mirrors_item (mirrors_term i.term i.label)) children
  have behind : Does (production ctx p children >>= fun rest =>
      if rest.isEmpty then boundary ctx .ruleEnd else failure)
      fun a => (Unparse.production ctx p (children, a)).andThen fun q => ending q.1 q.2 :=
    (items.bind ended).congr fun a => by
      beta_reduce
      cases Unparse.production ctx p (children, a) <;> rfl
  exact (does_boundary ctx .ruleStart).andThen behind

/-- A production comes to the same, and leaves neither a mark nor a journal. -/
theorem whole_eq (ctx : Context) (children : List Visit) (p : Production Grammar.Term) :
    whole ctx children p = told (Unparse.whole ctx children p) := by
  have ended := does_wholly ctx children p {} fun _ => rfl
  unfold whole
  change Ends {} ((Unparse.whole ctx children p).map fun b => ((), b)) _ at ended
  generalize Unparse.whole ctx children p = value, (wholly ctx children p).on {} = outcome at ended ⊢
  cases value with
  | fits b =>
    cases ended with
    | @fits _ c undos follows =>
      have bare : c = c.bare := Assembly.ext_bare rfl follows.journal follows.marks
      exact congrArg (fun a => Except.ok (some a)) bare
  | misfit =>
    cases ended
    rfl
  | broken | astray =>
    cases ended
    rfl

theorem alternatives_eq (ctx : Context) (children : List Visit) (ps : List (Production Grammar.Term)) :
    alternatives ctx children ps = told (Unparse.alternatives ctx children ps) := by
  induction ps with
  | nil => rfl
  | cons p ps ih =>
    rw [alternatives, Unparse.alternatives, whole_eq, ih]
    cases Unparse.whole ctx children p <;> rfl

/-- A rule comes to the same over all children, whatever their own trees give. -/
theorem rule_eq (w : Walk) (id : Nat) (inTrivia : Bool) (children : List Visit) :
    rule w id inTrivia children = told (w.rule id inTrivia children) := by
  unfold rule Walk.rule
  cases w.grammar.rules[id]? with
  | none => rfl
  | some r => exact alternatives_eq _ children r.productions

/-- So the journal can be used at every node of a tree. -/
theorem rule_visits (w : Walk) (tree : Tree) (inTrivia : Bool) :
    rule w tree.rule inTrivia (w.visits tree.children) = told (w.node tree inTrivia) := by
  obtain ⟨id, span, children⟩ := tree
  exact rule_eq w id inTrivia (w.visits children)

end Reprint.Unparse.Journal
