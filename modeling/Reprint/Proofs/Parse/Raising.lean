import Reprint.Proofs.Grammar.Linking
import Reprint.Proofs.Parse.Spans

/-!
# What is looked for and not found

Matching a part of a grammar at a place raises expectations: a literal and a pattern that
are not there, and blanks that have to stand in a slot and do not.  `Raises` says which
ones, in the order in which they come up, and at which place the part ends if it
matches.  What is tried and given up is raised like all else, but what the rule for
trivia looks for in a slot is not.

The relation leaves no choice (`Raises.unique`), and the matching of rules follows it
(`callTraces_rule`).  A part that does not match has raised something
(`Raises.ne_nil`), all of it inside the text (`Raises.within`).
-/

namespace Reprint

/-! ## Attempts and what they raise -/

namespace Attempted

variable {α β : Type} {raised : List Expectation}

theorem proceed_eq_some {x : Attempted α} {f : Option α → Attempted β} {v : Option β} :
    x.proceed f = some ⟨raised, v⟩ ↔ ∃ first u second,
      x = some ⟨first, u⟩ ∧ f u = some ⟨second, v⟩ ∧ raised = first ++ second := by
  constructor
  · intro given
    obtain ⟨a, first, given⟩ := Option.bind_eq_some_iff.1 given
    obtain ⟨b, second, same⟩ := Option.map_eq_some_iff.1 given
    obtain ⟨rfl, rfl⟩ := Attempt.mk.inj same
    exact ⟨a.raised, a.value, b.raised, first, second, rfl⟩
  · rintro ⟨first, u, second, rfl, given, rfl⟩
    simp [proceed, given]

theorem andThen_eq_some {x : Attempted α} {f : α → Attempted β} {v : Option β} :
    x.andThen f = some ⟨raised, v⟩ ↔
      (∃ first a second, x = some ⟨first, some a⟩ ∧ f a = some ⟨second, v⟩ ∧ raised = first ++ second) ∨
        (x = some ⟨raised, none⟩ ∧ v = none) := by
  rw [andThen, proceed_eq_some]
  constructor
  · rintro ⟨first, u, second, given, rest, rfl⟩
    cases u with
    | some a => exact .inl ⟨first, a, second, given, rest, rfl⟩
    | none =>
      obtain ⟨rfl, rfl⟩ := Attempt.mk.inj (Option.some.inj rest)
      exact .inr ⟨by rwa [List.append_nil], rfl⟩
  · rintro (⟨first, a, second, given, rest, rfl⟩ | ⟨given, rfl⟩)
    · exact ⟨first, some a, second, given, rest, rfl⟩
    · exact ⟨raised, none, [], given, rfl, (List.append_nil _).symm⟩

theorem orElse_eq_some {x : Attempted α} {y : Unit → Attempted α} {v : Option α} :
    x.orElse y = some ⟨raised, v⟩ ↔ (∃ a, x = some ⟨raised, some a⟩ ∧ v = some a) ∨
      ∃ first second, x = some ⟨first, none⟩ ∧ y () = some ⟨second, v⟩ ∧ raised = first ++ second := by
  rw [orElse, proceed_eq_some]
  constructor
  · rintro ⟨first, u, second, given, rest, rfl⟩
    cases u with
    | none => exact .inr ⟨first, second, given, rest, rfl⟩
    | some a =>
      obtain ⟨rfl, rfl⟩ := Attempt.mk.inj (Option.some.inj rest)
      exact .inl ⟨a, by rwa [List.append_nil], rfl⟩
  · rintro (⟨a, given, rfl⟩ | ⟨first, second, given, rest, rfl⟩)
    · exact ⟨raised, some a, [], given, rfl, (List.append_nil _).symm⟩
    · exact ⟨first, none, second, given, rest, rfl⟩

theorem map_eq_some {f : α → β} {x : Attempted α} {v : Option β} :
    x.map f = some ⟨raised, v⟩ ↔ ∃ u, x = some ⟨raised, u⟩ ∧ u.map f = v := by
  constructor
  · intro given
    obtain ⟨a, first, same⟩ := Option.map_eq_some_iff.1 given
    obtain ⟨rfl, rfl⟩ := Attempt.mk.inj same
    exact ⟨a.value, first, rfl⟩
  · rintro ⟨u, rfl, rfl⟩
    rfl

theorem quiet_eq_some {x : Attempted α} {v : Option α} :
    x.quiet = some ⟨raised, v⟩ ↔ raised = [] ∧ ∃ kept, x = some ⟨kept, v⟩ := by
  constructor
  · intro given
    obtain ⟨a, first, same⟩ := Option.map_eq_some_iff.1 given
    obtain ⟨rfl, rfl⟩ := Attempt.mk.inj same
    exact ⟨rfl, a.raised, first⟩
  · rintro ⟨rfl, kept, rfl⟩
    rfl

theorem some_eq_some {first : List Expectation} {u v : Option α} :
    (some ⟨first, u⟩ : Attempted α) = some ⟨raised, v⟩ ↔ raised = first ∧ v = u := by
  rw [Option.some.injEq, Attempt.mk.injEq, eq_comm, eq_comm (a := u)]

end Attempted

namespace Matching

/-! ## The expectations in order -/

/-- What matching a part of a grammar at a place raises, inside or outside trivia and
with these rules in progress, and the place behind it if it matches. -/
inductive Raises (g : Grammar) :
    Bool → RuleStack → Part → Cursor → List Expectation → Option Cursor → Prop
  /-- No blanks may stand in the slot. -/
  | tight {inTrivia : Bool} {stack : RuleStack} {c : Cursor} :
      Raises g inTrivia stack (.slot .none) c [] (some c)
  /-- Inside trivia blanks stand in the slot. -/
  | blanks {stack : RuleStack} {sep : Separator} {c : Cursor} :
      sep ≠ .none → c.rest.takeWhile Text.isBlank ≠ [] →
      Raises g true stack (.slot sep) c []
        (some (c.advance (c.rest.takeWhile Text.isBlank).length))
  | noBlanks {stack : RuleStack} {c : Cursor} :
      c.rest.takeWhile Text.isBlank = [] → Raises g true stack (.slot .allowed) c [] (some c)
  | lackingBlanks {stack : RuleStack} {c : Cursor} :
      c.rest.takeWhile Text.isBlank = [] →
      Raises g true stack (.slot .required) c [⟨c.offset, .blanks, stack⟩] none
  /-- Without a rule for trivia nothing is looked for in slots. -/
  | untold {stack : RuleStack} {sep : Separator} {c : Cursor} :
      sep ≠ .none → g.trivia = none → Raises g false stack (.slot sep) c [] (some c)
  /-- Outside trivia the rule for it takes text.  What it looks for is not raised. -/
  | trivia {stack : RuleStack} {sep : Separator} {id : Nat} {r : Rule Grammar.Term} {c d : Cursor}
      {kept : List Expectation} :
      sep ≠ .none → g.trivia = some id → g.rules[id]? = some r →
      Raises g true ((id, c.offset) :: stack) (.productions r.productions) c kept (some d) →
      d.offset ≠ c.offset → Raises g false stack (.slot sep) c [] (some d)
  | noTrivia {stack : RuleStack} {id : Nat} {r : Rule Grammar.Term} {c : Cursor}
      {kept : List Expectation} {v : Option Cursor} :
      g.trivia = some id → g.rules[id]? = some r →
      Raises g true ((id, c.offset) :: stack) (.productions r.productions) c kept v →
      (∀ d ∈ v, d.offset = c.offset) → Raises g false stack (.slot .allowed) c [] (some c)
  | lackingTrivia {stack : RuleStack} {id : Nat} {r : Rule Grammar.Term} {c : Cursor}
      {kept : List Expectation} {v : Option Cursor} :
      g.trivia = some id → g.rules[id]? = some r →
      Raises g true ((id, c.offset) :: stack) (.productions r.productions) c kept v →
      (∀ d ∈ v, d.offset = c.offset) →
      Raises g false stack (.slot .required) c [⟨c.offset, .blanks, stack⟩] none
  | literal {inTrivia : Bool} {stack : RuleStack} {label : Option String} {text : String} {c : Cursor} :
      text.toList <+: c.rest →
      Raises g inTrivia stack (.term label (.literal text)) c [] (some (c.advance text.toList.length))
  | noLiteral {inTrivia : Bool} {stack : RuleStack} {label : Option String} {text : String}
      {c : Cursor} :
      ¬ text.toList <+: c.rest →
      Raises g inTrivia stack (.term label (.literal text)) c [⟨c.offset, .literal text, stack⟩] none
  | pattern {inTrivia : Bool} {stack : RuleStack} {label : Option String} {p : Pattern} {count : Nat}
      {c : Cursor} :
      p.taken? c.rest = some count →
      Raises g inTrivia stack (.term label (.pattern p)) c [] (some (c.advance count))
  | noPattern {inTrivia : Bool} {stack : RuleStack} {label : Option String} {p : Pattern} {c : Cursor} :
      p.taken? c.rest = none →
      Raises g inTrivia stack (.term label (.pattern p)) c [⟨c.offset, .pattern p, stack⟩] none
  /-- The rule that is referred to is now the innermost one in progress. -/
  | rule {inTrivia : Bool} {stack : RuleStack} {label : Option String} {id : Nat}
      {r : Rule Grammar.Term} {c : Cursor} {raised : List Expectation} {v : Option Cursor} :
      g.rules[id]? = some r →
      Raises g (inTrivia || g.isTrivia id) ((id, c.offset) :: stack) (.productions r.productions) c
        raised v →
      Raises g inTrivia stack (.term label (.rule id)) c raised v
  | group {inTrivia : Bool} {stack : RuleStack} {label : Option String}
      {ps : List (Production Grammar.Term)} {c : Cursor} {raised : List Expectation}
      {v : Option Cursor} :
      Raises g inTrivia stack (.productions ps) c raised v →
      Raises g inTrivia stack (.term label (.group ps)) c raised v
  | once {inTrivia : Bool} {stack : RuleStack} {i : Item Grammar.Term} {c d : Cursor}
      {raised more : List Expectation} {v : Option Cursor} :
      Raises g inTrivia stack (.slot i.slot) c raised (some d) →
      Raises g inTrivia stack (.term i.label i.term) d more v →
      Raises g inTrivia stack (.once i) c (raised ++ more) v
  | noSlot {inTrivia : Bool} {stack : RuleStack} {i : Item Grammar.Term} {c : Cursor}
      {raised : List Expectation} :
      Raises g inTrivia stack (.slot i.slot) c raised none →
      Raises g inTrivia stack (.once i) c raised none
  | single {inTrivia : Bool} {stack : RuleStack} {i : Item Grammar.Term} {c : Cursor}
      {raised : List Expectation} {v : Option Cursor} :
      i.quantifier = .one → Raises g inTrivia stack (.once i) c raised v →
      Raises g inTrivia stack (.item i) c raised v
  | optional {inTrivia : Bool} {stack : RuleStack} {i : Item Grammar.Term} {c : Cursor}
      {raised : List Expectation} {v : Option Cursor} :
      i.quantifier = .optional → Raises g inTrivia stack (.once i) c raised v →
      Raises g inTrivia stack (.item i) c raised (some (v.getD c))
  /-- There is no further occurrence, nor does there have to be one if some may be missing. -/
  | stop {inTrivia : Bool} {stack : RuleStack} {i : Item Grammar.Term} {c : Cursor}
      {raised : List Expectation} :
      i.quantifier.repeats → Raises g inTrivia stack (.once i) c raised none →
      Raises g inTrivia stack (.item i) c raised (if i.quantifier.least = 0 then some c else none)
  /-- An occurrence that takes no text is the last one. -/
  | last {inTrivia : Bool} {stack : RuleStack} {i : Item Grammar.Term} {c d : Cursor}
      {raised : List Expectation} :
      i.quantifier.repeats → Raises g inTrivia stack (.once i) c raised (some d) →
      ¬ d.rest.length < c.rest.length → Raises g inTrivia stack (.item i) c raised (some d)
  /-- Behind an occurrence there may be any number of others. -/
  | more {inTrivia : Bool} {stack : RuleStack} {i : Item Grammar.Term} {c d : Cursor}
      {raised more : List Expectation} {v : Option Cursor} :
      i.quantifier.repeats → Raises g inTrivia stack (.once i) c raised (some d) →
      d.rest.length < c.rest.length →
      Raises g inTrivia stack (.item { i with quantifier := .many }) d more v →
      Raises g inTrivia stack (.item i) c (raised ++ more) v
  | nil {inTrivia : Bool} {stack : RuleStack} {c : Cursor} :
      Raises g inTrivia stack (.items []) c [] (some c)
  | cons {inTrivia : Bool} {stack : RuleStack} {i : Item Grammar.Term} {is : List (Item Grammar.Term)}
      {c d : Cursor} {raised more : List Expectation} {v : Option Cursor} :
      Raises g inTrivia stack (.item i) c raised (some d) →
      Raises g inTrivia stack (.items is) d more v →
      Raises g inTrivia stack (.items (i :: is)) c (raised ++ more) v
  | noItem {inTrivia : Bool} {stack : RuleStack} {i : Item Grammar.Term}
      {is : List (Item Grammar.Term)} {c : Cursor} {raised : List Expectation} :
      Raises g inTrivia stack (.item i) c raised none →
      Raises g inTrivia stack (.items (i :: is)) c raised none
  | production {inTrivia : Bool} {stack : RuleStack} {p : Production Grammar.Term} {c d : Cursor}
      {raised more : List Expectation} {v : Option Cursor} :
      Raises g inTrivia stack (.items p.items) c raised (some d) →
      Raises g inTrivia stack (.slot p.trailing) d more v →
      Raises g inTrivia stack (.production p) c (raised ++ more) v
  | noItems {inTrivia : Bool} {stack : RuleStack} {p : Production Grammar.Term} {c : Cursor}
      {raised : List Expectation} :
      Raises g inTrivia stack (.items p.items) c raised none →
      Raises g inTrivia stack (.production p) c raised none
  | here {inTrivia : Bool} {stack : RuleStack} {p : Production Grammar.Term}
      {ps : List (Production Grammar.Term)} {c d : Cursor} {raised : List Expectation} :
      Raises g inTrivia stack (.production p) c raised (some d) →
      Raises g inTrivia stack (.productions (p :: ps)) c raised (some d)
  /-- The next production is tried at the same place. -/
  | next {inTrivia : Bool} {stack : RuleStack} {p q : Production Grammar.Term}
      {ps : List (Production Grammar.Term)} {c : Cursor} {raised more : List Expectation}
      {v : Option Cursor} :
      Raises g inTrivia stack (.production p) c raised none →
      Raises g inTrivia stack (.productions (q :: ps)) c more v →
      Raises g inTrivia stack (.productions (p :: q :: ps)) c (raised ++ more) v
  | noNext {inTrivia : Bool} {stack : RuleStack} {p : Production Grammar.Term} {c : Cursor}
      {raised : List Expectation} :
      Raises g inTrivia stack (.production p) c raised none →
      Raises g inTrivia stack (.productions [p]) c raised none

namespace Raises

variable {g : Grammar} {inTrivia : Bool} {stack : RuleStack} {part : Part} {c : Cursor}
  {raised : List Expectation} {v : Option Cursor}

/-- Something was looked for and not found in a part that does not match. -/
theorem ne_nil (raises : Raises g inTrivia stack part c raised v) (failed : v = none) :
    raised ≠ [] := by
  induction raises with
  | tight | blanks | noBlanks | untold | trivia | noTrivia | literal | pattern | optional | last | nil
  | here => cases failed
  | lackingBlanks | lackingTrivia | noLiteral | noPattern => exact List.cons_ne_nil _ _
  | rule _ _ ih | group _ ih | single _ _ ih => exact ih failed
  | noSlot _ ih | stop _ _ ih | noItem _ ih | noItems _ ih | noNext _ ih => exact ih rfl
  | once _ _ _ ih | more _ _ _ _ _ ih | cons _ _ _ ih | production _ _ _ ih | next _ _ _ ih =>
    exact List.append_ne_nil_of_right_ne_nil _ (ih failed)

/-- Expectations stand at places of the text, and a part that matches ends at one. -/
theorem within {source : String} (raises : Raises g inTrivia stack part c raised v)
    (within : c.In source) :
    (∀ x ∈ raised, ∃ d : Cursor, d.In source ∧ d.offset = x.offset) ∧ ∀ d ∈ v, d.In source := by
  induction raises with
  | tight | noBlanks | untold | noTrivia | nil => exact ⟨List.forall_mem_nil _, by rintro _ ⟨⟩; exact within⟩
  | blanks | literal | pattern =>
    refine ⟨List.forall_mem_nil _, ?_⟩
    rintro _ ⟨⟩
    exact within.ahead (Cursor.ahead_advance _ _)
  | lackingBlanks | lackingTrivia | noLiteral | noPattern =>
    exact ⟨List.forall_mem_singleton.2 ⟨_, within, rfl⟩, nofun⟩
  | trivia _ _ _ _ _ ih => exact ⟨List.forall_mem_nil _, (ih within).2⟩
  | rule _ _ ih | group _ ih | single _ _ ih | noSlot _ ih | last _ _ _ ih | noItem _ ih | noItems _ ih
  | here _ ih | noNext _ ih => exact ih within
  | @optional _ _ _ _ _ v _ _ ih =>
    refine ⟨(ih within).1, ?_⟩
    rintro _ ⟨⟩
    cases v with
    | none => exact within
    | some d => exact (ih within).2 d rfl
  | stop _ _ ih =>
    refine ⟨(ih within).1, ?_⟩
    intro d member
    split_ifs at member
    · obtain rfl := Option.some.inj member
      exact within
    · cases member
  | once _ _ first second | more _ _ _ _ first second | cons _ _ first second
  | production _ _ first second =>
    obtain ⟨front, behind⟩ := first within
    obtain ⟨back, beyond⟩ := second (behind _ rfl)
    exact ⟨List.forall_mem_append.2 ⟨front, back⟩, beyond⟩
  | next _ _ first second =>
    obtain ⟨front, _⟩ := first within
    obtain ⟨back, beyond⟩ := second within
    exact ⟨List.forall_mem_append.2 ⟨front, back⟩, beyond⟩

/-- What is raised is determined, and so is the place behind. -/
theorem unique (raises : Raises g inTrivia stack part c raised v) {raised' : List Expectation}
    {v' : Option Cursor} (again : Raises g inTrivia stack part c raised' v') :
    raised' = raised ∧ v' = v := by
  -- Two ways to go on exclude each other: by what they ask of the place, or by whether the same
  -- part in front of them matched.
  induction raises generalizing raised' v' with
  | tight | blanks | noBlanks | lackingBlanks | untold | trivia | noTrivia | lackingTrivia =>
    cases again <;> grind
  | literal | noLiteral | pattern | noPattern | rule | group => cases again <;> grind
  | once | noSlot => cases again <;> grind
  | single | optional | stop | last | more => cases again <;> grind [Quantifier.repeats]
  | nil | cons | noItem => cases again <;> grind
  | production | noItems => cases again <;> grind
  | here | next | noNext => cases again <;> grind

end Raises

/-! ## Matching raises -/

/-- What a rule raises is what its productions raise. -/
def CallTraces (g : Grammar) (call : Nat → Bool → RuleStack → Cursor → Attempted (Tree × Cursor)) :
    Prop :=
  ∀ {id : Nat} {inTrivia : Bool} {stack : RuleStack} {c : Cursor} {raised : List Expectation}
    {v : Option (Tree × Cursor)}, id < g.rules.length →
    call id inTrivia stack c = some ⟨raised, v⟩ → ∃ r, g.rules[id]? = some r ∧
      Raises g (inTrivia || g.isTrivia id) ((id, c.offset) :: stack) (.productions r.productions) c
        raised (v.map Prod.snd)

/-- An attempt raises what matching a part of the grammar raises, and ends where it does. -/
def Traces (g : Grammar) (ctx : Context) (part : Part) (attempt : Cursor → Attempted Found) : Prop :=
  ∀ {c : Cursor} {raised : List Expectation} {v : Option Found}, attempt c = some ⟨raised, v⟩ →
    Raises g ctx.inTrivia ctx.stack part c raised (v.map Prod.snd)

section Traces

variable {g : Grammar} {ctx : Context} (own : ctx.grammar = g) (linked : g.Linked)
  (spread : CallSpreads ctx.call) (calls : CallTraces g ctx.call)

include own linked spread calls in
theorem traces_slot (sep : Separator) : Traces g ctx (.slot sep) (ctx.slot sep) := by
  intro c raised v given
  unfold Context.slot at given
  split_ifs at given with tight inTrivia
  · obtain ⟨rfl, rfl⟩ := Attempted.some_eq_some.1 given
    rw [tight]
    exact .tight
  · rw [inTrivia]
    dsimp only at given
    split_ifs at given with same
    · unfold Context.emptySlot at given
      split_ifs at given with required
      · obtain ⟨rfl, rfl⟩ := Attempted.some_eq_some.1 given
        rw [required]
        exact .lackingBlanks (offset_eq_takeWhile_iff.1 same)
      · obtain ⟨rfl, rfl⟩ := Attempted.some_eq_some.1 given
        rw [eq_allowed tight required]
        exact .noBlanks (offset_eq_takeWhile_iff.1 same)
    · obtain ⟨rfl, rfl⟩ := Attempted.some_eq_some.1 given
      exact .blanks tight (mt offset_eq_takeWhile_iff.2 same)
  · have outside : ctx.inTrivia = false := Bool.not_eq_true _ ▸ inTrivia
    rw [outside]
    split at given
    · next none =>
      obtain ⟨rfl, rfl⟩ := Attempted.some_eq_some.1 given
      exact .untold tight (own ▸ none)
    · next id known =>
      rw [own] at known
      obtain ⟨first, result, second, quiet, further, rfl⟩ := Attempted.proceed_eq_some.1 given
      obtain ⟨rfl, kept, called⟩ := Attempted.quiet_eq_some.1 quiet
      obtain ⟨r, found, inner⟩ := calls (linked.trivia id known) called
      rw [Bool.true_or] at inner
      have empty : (ctx.emptySlot sep c = some ⟨second, v⟩) →
          (∀ d ∈ result.map Prod.snd, d.offset = c.offset) →
          Raises g false ctx.stack (.slot sep) c ([] ++ second) (v.map Prod.snd) := by
        intro empty still
        unfold Context.emptySlot at empty
        split_ifs at empty with required
        · obtain ⟨rfl, rfl⟩ := Attempted.some_eq_some.1 empty
          rw [required]
          exact .lackingTrivia known found inner still
        · obtain ⟨rfl, rfl⟩ := Attempted.some_eq_some.1 empty
          rw [eq_allowed tight required]
          exact .noTrivia known found inner still
      split at further
      · next tree d =>
        obtain ⟨span, _⟩ := spread ⟨kept, called⟩
        have still : tree.span.isEmpty ↔ d.offset = c.offset := by
          rw [span]
          exact beq_iff_eq.trans eq_comm
        split_ifs at further with none
        · refine empty further ?_
          rintro _ ⟨⟩
          exact still.1 none
        · obtain ⟨rfl, rfl⟩ := Attempted.some_eq_some.1 further
          exact .trivia tight known found inner (mt still.2 none)
      · refine empty further ?_
        rintro d ⟨⟩

theorem traces_literal (label : Option String) (text : String) :
    Traces g ctx (.term label (.literal text)) (ctx.literal label text) := by
  intro c raised v given
  unfold Context.literal at given
  split_ifs at given with found
  · obtain ⟨rfl, rfl⟩ := Attempted.some_eq_some.1 given
    exact .literal (List.isPrefixOf_iff_prefix.1 found)
  · obtain ⟨rfl, rfl⟩ := Attempted.some_eq_some.1 given
    exact .noLiteral fun begins => found (List.isPrefixOf_iff_prefix.2 begins)

theorem traces_pattern (label : Option String) (p : Pattern) :
    Traces g ctx (.term label (.pattern p)) (ctx.pattern label p) := by
  intro c raised v given
  unfold Context.pattern at given
  split at given
  · next count taken =>
    obtain ⟨rfl, rfl⟩ := Attempted.some_eq_some.1 given
    exact .pattern taken
  · next none =>
    obtain ⟨rfl, rfl⟩ := Attempted.some_eq_some.1 given
    exact .noPattern none

include calls in
theorem traces_node (label : Option String) {id : Nat} (known : id < g.rules.length) :
    Traces g ctx (.term label (.rule id)) (term ctx label (.rule id)) := by
  intro c raised v given
  rw [term, Attempted.map_eq_some] at given
  obtain ⟨u, called, rfl⟩ := given
  obtain ⟨r, found, inner⟩ := calls known called
  rw [Option.map_map]
  exact .rule found inner

include own linked spread calls in
theorem traces_once {i : Item Grammar.Term}
    (traces : Traces g ctx (.term i.label i.term) (term ctx i.label i.term)) :
    Traces g ctx (.once i) (once ctx i) := by
  intro c raised v given
  have slot : Traces g ctx (.slot i.slot) (ctx.slot i.slot) :=
    traces_slot own linked spread calls i.slot
  rcases Attempted.andThen_eq_some.1 given with ⟨first, found, second, slotted, behind, rfl⟩ | ⟨slotted, rfl⟩
  · obtain ⟨u, matched, rfl⟩ := Attempted.map_eq_some.1 behind
    rw [Option.map_map]
    exact .once (slot slotted) (traces matched)
  · exact .noSlot (slot slotted)

/-- As many occurrences as there are raise what an item does that repeats, and it does not
match if there have to be more. -/
theorem traces_repeated {i : Item Grammar.Term}
    (traces : ∀ quantifier, Traces g ctx (.once { i with quantifier }) (once ctx i))
    {c : Cursor} {quantifier : Quantifier} (repeats : quantifier.repeats)
    {raised : List Expectation} {v : Option (Nat × Found)}
    (given : repeated (once ctx i) c = some ⟨raised, v⟩) : ∃ count found, v = some (count, found) ∧
      Raises g ctx.inTrivia ctx.stack (.item { i with quantifier }) c raised
        (if quantifier.least ≤ count then some found.2 else none) := by
  induction size : c.rest.length using Nat.strongRecOn generalizing c quantifier raised v with
  | ind n ih =>
    subst size
    have least : quantifier.least ≤ 1 := by cases quantifier <;> decide
    rw [repeated] at given
    obtain ⟨first, result, second, occurred, further, rfl⟩ := Attempted.proceed_eq_some.1 given
    have own := traces quantifier occurred
    split at further
    · obtain ⟨rfl, rfl⟩ := Attempted.some_eq_some.1 further
      refine ⟨0, _, rfl, ?_⟩
      have stop : Raises g _ _ (.item { i with quantifier }) c _ _ := .stop repeats own
      simpa using stop
    · next children d =>
      split_ifs at further with progress
      · obtain ⟨u, others, rfl⟩ := Attempted.map_eq_some.1 further
        have many : Quantifier.many.repeats = true := rfl
        obtain ⟨count, found, rfl, rest⟩ := ih _ progress many others rfl
        have enough : Quantifier.many.least ≤ count := Nat.zero_le count
        rw [if_pos enough] at rest
        refine ⟨count + 1, _, rfl, ?_⟩
        rw [if_pos (by omega)]
        exact .more repeats own progress rest
      · obtain ⟨rfl, rfl⟩ := Attempted.some_eq_some.1 further
        refine ⟨1, _, rfl, ?_⟩
        rw [if_pos least, List.append_nil]
        exact .last repeats own progress

theorem traces_item {i : Item Grammar.Term}
    (traces : ∀ quantifier, Traces g ctx (.once { i with quantifier }) (once ctx i)) :
    Traces g ctx (.item i) (item ctx i) := by
  intro c raised v given
  rw [item_eq] at given
  have many : i.quantifier.repeats → ((repeated (once ctx i) c).andThen fun r =>
      if i.quantifier.least ≤ r.1 then .succeed r.2 else .fail) = some ⟨raised, v⟩ →
      Raises g ctx.inTrivia ctx.stack (.item i) c raised (v.map Prod.snd) := by
    intro repeats occurrences
    rcases Attempted.andThen_eq_some.1 occurrences with ⟨first, r, second, all, counted, rfl⟩ | ⟨all, -⟩
    · obtain ⟨count, found, same, whole⟩ := traces_repeated traces repeats all
      obtain rfl := Option.some.inj same
      split_ifs at counted whole with enough
      · obtain ⟨rfl, rfl⟩ := Attempted.some_eq_some.1 counted
        rw [List.append_nil]
        exact whole
      · obtain ⟨rfl, rfl⟩ := Attempted.some_eq_some.1 counted
        rw [List.append_nil]
        exact whole
    · obtain ⟨_, _, none, _⟩ := traces_repeated traces repeats all
      cases none
  unfold quantified at given
  split at given
  · next quantifier => exact .single quantifier (traces i.quantifier given)
  · next quantifier =>
    rcases Attempted.orElse_eq_some.1 given with ⟨found, present, rfl⟩ | ⟨first, second, absent, skipped, rfl⟩
    · exact .optional quantifier (traces i.quantifier present)
    · obtain ⟨rfl, rfl⟩ := Attempted.some_eq_some.1 skipped
      rw [List.append_nil]
      exact .optional quantifier (traces i.quantifier absent)
  · next quantifier => exact many (by rw [quantifier]; rfl) given
  · next quantifier => exact many (by rw [quantifier]; rfl) given

theorem traces_items {is : List (Item Grammar.Term)}
    (traces : ∀ i ∈ is, Traces g ctx (.item i) (item ctx i)) :
    Traces g ctx (.items is) (items ctx is) := by
  induction is with
  | nil =>
    intro c raised v given
    rw [items] at given
    obtain ⟨rfl, rfl⟩ := Attempted.some_eq_some.1 given
    exact .nil
  | cons i is ih =>
    obtain ⟨one, others⟩ := List.forall_mem_cons.1 traces
    intro c raised v given
    rw [items] at given
    rcases Attempted.andThen_eq_some.1 given with ⟨first, found, second, matched, behind, rfl⟩ | ⟨missed, rfl⟩
    · obtain ⟨u, rest, rfl⟩ := Attempted.map_eq_some.1 behind
      rw [Option.map_map]
      exact .cons (one matched) (ih others rest)
    · exact .noItem (one missed)

include own linked spread calls in
theorem traces_production {p : Production Grammar.Term}
    (traces : ∀ i ∈ p.items, Traces g ctx (.term i.label i.term) (term ctx i.label i.term)) :
    Traces g ctx (.production p) (production ctx p) := by
  intro c raised v given
  obtain ⟨is, trailing⟩ := p
  have all : Traces g ctx (.items is) (items ctx is) := traces_items fun i member =>
    traces_item fun quantifier =>
      traces_once (i := { i with quantifier }) own linked spread calls (traces i member)
  have slot : Traces g ctx (.slot trailing) (ctx.slot trailing) :=
    traces_slot own linked spread calls trailing
  rw [production] at given
  rcases Attempted.andThen_eq_some.1 given with ⟨first, found, second, matched, behind, rfl⟩ | ⟨missed, rfl⟩
  · obtain ⟨u, slotted, rfl⟩ := Attempted.map_eq_some.1 behind
    rw [Option.map_map]
    exact .production (all matched) (slot slotted)
  · exact .noItems (all missed)

theorem traces_productions {ps : List (Production Grammar.Term)} (nonempty : ps ≠ [])
    (traces : ∀ p ∈ ps, Traces g ctx (.production p) (production ctx p)) :
    Traces g ctx (.productions ps) (productions ctx ps) := by
  induction ps with
  | nil => exact absurd rfl nonempty
  | cons p ps ih =>
    obtain ⟨one, others⟩ := List.forall_mem_cons.1 traces
    intro c raised v given
    rw [productions] at given
    rcases Attempted.orElse_eq_some.1 given with ⟨found, matched, rfl⟩ | ⟨first, second, missed, others', rfl⟩
    · exact .here (one matched)
    · cases ps with
      | nil =>
        obtain ⟨rfl, rfl⟩ := Attempted.some_eq_some.1 others'
        rw [List.append_nil]
        exact .noNext (one missed)
      | cons q ps => exact .next (one missed) (ih (List.cons_ne_nil q ps) others others')

include own linked spread calls in
theorem traces_term (t : Grammar.Term) (known : t.Linked g.rules.length)
    (inner : Throughout (Production.Linked g.rules.length) t.productions) :
    ∀ label, Traces g ctx (.term label t) (term ctx label t) := by
  induction t using Term.inductionOn with
  | rule id => exact fun label => traces_node calls label known
  | literal text => exact fun label => traces_literal label text
  | pattern p => exact fun label => traces_pattern label p
  | group ps ih =>
    intro label c raised v given
    have each : ∀ p ∈ ps, Traces g ctx (.production p) (production ctx p) := by
      intro p member
      obtain ⟨own', deeper⟩ := inner.of_mem member
      exact traces_production own linked spread calls fun i inside =>
        ih p member i inside (own' i inside) (deeper i inside) i.label
    rw [term] at given
    exact .group (traces_productions known each given)

end Traces

/-- The matching of rules of a linked grammar raises what their productions raise. -/
theorem callTraces_rule {g : Grammar} (linked : g.Linked) (depth : Nat) :
    CallTraces g (rule g depth) := by
  induction depth with
  | zero =>
    intro id inTrivia stack c raised v _ given
    cases given
  | succ depth ih =>
    intro id inTrivia stack c raised v known given
    have found := List.getElem?_eq_getElem known
    rw [rule, found] at given
    obtain ⟨u, matched, rfl⟩ := Attempted.map_eq_some.1 given
    refine ⟨_, found, ?_⟩
    have member := List.mem_of_getElem? found
    let ctx : Context := (Site.of g id depth inTrivia stack c).context g
    have each : ∀ p ∈ g.rules[id].productions, Traces g ctx (.production p) (production ctx p) := by
      intro p inside
      obtain ⟨own, deeper⟩ := (linked.throughout _ member).of_mem inside
      exact traces_production rfl linked (callSpreads_rule g depth) ih fun i inside =>
        traces_term rfl linked (callSpreads_rule g depth) ih i.term (own i inside) (deeper i inside)
          i.label
    rw [Option.map_map]
    exact traces_productions (linked.nonempty _ member) each matched

end Matching

end Reprint
