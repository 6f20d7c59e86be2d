import Reprint.Proofs.Parse.Raising
import Reprint.Proofs.Parse.Termination

/-!
# What is said about a text that cannot be read

A text that a rule does not match, or of which it only matches the front, is turned away
with all expectations that came up.  `Grammar.Rejects` says which ones those are, from
the grammar alone.  What is said about the failure is read off them (`Explains`): it
stands at the furthest place where something was looked for, lists what was looked for
there and names the innermost rule that had come to that place from further back
(`explain_of_parse`).
-/

namespace Reprint

/-! ## Sorted lists with each element once -/

section EraseReps

variable {a b x : String} {xs seen : List String}

theorem eraseRepsBy_loop :
    List.eraseRepsBy.loop (· == ·) a xs seen =
      seen.reverse ++ List.eraseRepsBy.loop (· == ·) a xs [] := by
  induction xs generalizing a seen with
  | nil => simp [List.eraseRepsBy.loop]
  | cons b xs ih =>
    rw [List.eraseRepsBy.loop, List.eraseRepsBy.loop]
    split
    · exact ih
    · rw [ih, @ih b [a]]
      simp

theorem eraseReps_repeated : (a :: a :: xs).eraseReps = (a :: xs).eraseReps := by
  simp [List.eraseReps, List.eraseRepsBy, List.eraseRepsBy.loop]

theorem eraseReps_cons (other : a ≠ b) : (a :: b :: xs).eraseReps = a :: (b :: xs).eraseReps := by
  have different : (a == b) = false := beq_false_of_ne other
  rw [List.eraseReps, List.eraseRepsBy, List.eraseRepsBy.loop, different]
  exact eraseRepsBy_loop

theorem mem_eraseReps : x ∈ xs.eraseReps ↔ x ∈ xs := by
  induction xs with
  | nil => rfl
  | cons a xs ih =>
    cases xs with
    | nil => rfl
    | cons b xs =>
      by_cases same : a = b
      · subst same
        rw [eraseReps_repeated, ih]
        simp
      · rw [eraseReps_cons same, List.mem_cons, ih, ← List.mem_cons]

theorem pairwise_eraseReps (sorted : xs.Pairwise (· ≤ ·)) : xs.eraseReps.Pairwise (· < ·) := by
  induction xs with
  | nil => exact .nil
  | cons a xs ih =>
    obtain ⟨first, rest⟩ := List.pairwise_cons.1 sorted
    cases xs with
    | nil => exact List.pairwise_singleton _ _
    | cons b xs =>
      by_cases same : a = b
      · subst same
        rw [eraseReps_repeated]
        exact ih rest
      · rw [eraseReps_cons same]
        refine List.pairwise_cons.2 ⟨fun x member => ?_, ih rest⟩
        -- all that is behind is at least `b`, which is beyond `a`
        have beyond : a < b := Std.lt_of_le_of_ne (first b List.mem_cons_self) same
        rcases List.mem_cons.1 (mem_eraseReps.1 member) with rfl | behind
        · exact beyond
        · exact Std.lt_of_lt_of_le beyond ((List.pairwise_cons.1 rest).1 x behind)

end EraseReps

/-! ## The furthest expectations -/

namespace Expectation

variable {raised : List Expectation}

theorem foldl_max_mem (offsets : List Nat) (least : Nat) :
    offsets.foldl max least ∈ least :: offsets ∧ ∀ n ∈ least :: offsets, n ≤ offsets.foldl max least := by
  induction offsets generalizing least with
  | nil => simp
  | cons n offsets ih =>
    obtain ⟨member, most⟩ := ih (max least n)
    rw [List.foldl_cons]
    obtain ⟨start, others⟩ := List.forall_mem_cons.1 most
    refine ⟨?_, ?_⟩
    · rcases List.mem_cons.1 member with same | behind
      · rw [same]
        rcases max_choice least n with one | other
        · rw [one]
          exact List.mem_cons_self
        · rw [other]
          exact List.mem_cons_of_mem _ List.mem_cons_self
      · exact List.mem_cons_of_mem _ (List.mem_cons_of_mem _ behind)
    · refine List.forall_mem_cons.2 ⟨(le_max_left _ _).trans start, List.forall_mem_cons.2 ⟨?_, others⟩⟩
      exact (le_max_right _ _).trans start

theorem le_furthest : ∀ x ∈ raised, x.offset ≤ furthest raised := by
  intro x member
  exact (foldl_max_mem _ 0).2 _ (List.mem_cons_of_mem _ (List.mem_map_of_mem member))

theorem exists_furthest (some : raised ≠ []) : ∃ x ∈ raised, x.offset = furthest raised := by
  rcases List.mem_cons.1 (foldl_max_mem (raised.map (·.offset)) 0).1 with zero | behind
  · obtain ⟨x, member⟩ := List.exists_mem_of_ne_nil raised some
    have least := le_furthest x member
    rw [furthest, zero] at least ⊢
    exact ⟨x, member, Nat.le_zero.1 least⟩
  · obtain ⟨x, member, same⟩ := List.mem_map.1 behind
    exact ⟨x, member, same⟩

theorem mem_descriptions {text : String} :
    text ∈ descriptions raised ↔ ∃ x ∈ raised, x.what.shown = text := by
  rw [descriptions, mem_eraseReps, List.mem_mergeSort, List.mem_map]

theorem pairwise_descriptions : (descriptions raised).Pairwise (· < ·) := by
  refine pairwise_eraseReps ((List.pairwise_mergeSort ?_ ?_ _).imp ?_)
  · intro a b c first second
    exact decide_eq_true (String.le_trans (of_decide_eq_true first) (of_decide_eq_true second))
  · intro a b
    simpa using String.le_total a b
  · intro a b given
    exact of_decide_eq_true given

end Expectation

/-- The innermost rule in progress that had started before an offset, if there is one. -/
inductive Origin (offset : Nat) : RuleStack → Option (Nat × Nat) → Prop
  | innermost {inner outer : RuleStack} {id start : Nat} :
      (∀ r ∈ inner, offset ≤ r.2) → start < offset →
      Origin offset (inner ++ (id, start) :: outer) (some (id, start))
  | none {stack : RuleStack} : (∀ r ∈ stack, offset ≤ r.2) → Origin offset stack none

theorem origin_find? (offset : Nat) (stack : RuleStack) :
    Origin offset stack (stack.find? fun r => r.2 < offset) := by
  cases found : stack.find? fun r => r.2 < offset with
  | none =>
    rw [List.find?_eq_none] at found
    exact .none fun r member => by simpa using found r member
  | some r =>
    obtain ⟨before, inner, outer, rfl, first⟩ := List.find?_eq_some_iff_append.1 found
    exact .innermost (fun s member => by simpa using first s member) (by simpa using before)

/-- The rule in progress is looked up where the furthest offset is first reached. -/
theorem Expectation.exists_first {raised : List Expectation} (some : raised ≠ []) :
    ∃ front x back, raised = front ++ x :: back ∧ x.offset = furthest raised ∧
      (∀ y ∈ front, y.offset < furthest raised) ∧
      Origin (furthest raised) x.stack (origin? (furthest raised) raised) := by
  obtain ⟨x, member, same⟩ := exists_furthest some
  rw [origin?, atOffset, List.head?_filter]
  cases found : raised.find? (·.offset == furthest raised) with
  | none => exact absurd (beq_iff_eq.2 same) (List.find?_eq_none.1 found x member)
  | some x =>
    obtain ⟨reached, front, back, split, first⟩ := List.find?_eq_some_iff_append.1 found
    refine ⟨front, x, back, split, by simpa using reached, ?_, origin_find? _ _⟩
    intro y inside
    have before : y.offset ≠ furthest raised := by simpa using first y inside
    exact lt_of_le_of_ne (le_furthest y (split ▸ List.mem_append_left _ inside)) before

/-! ## Places in the text -/

theorem dropBytes?_width {source : String} {before after : List Char}
    (split : source.toList = before ++ after) :
    Text.dropBytes? (Text.width before) source.toList = some after := by
  rw [split, Text.dropBytes?_append]

theorem characterAt_width {source : String} {before after : List Char}
    (split : source.toList = before ++ after) :
    characterAt source (Text.width before) =
      ⟨Text.width before, Text.width before + Text.width (after.take 1)⟩ := by
  rw [characterAt, dropBytes?_width split]
  cases after <;> rfl

theorem foundAt_width {source : String} {before after : List Char}
    (split : source.toList = before ++ after) :
    foundAt source (Text.width before) = (after.head?.map Text.quoteChar).getD "end of input" := by
  rw [foundAt, dropBytes?_width split]
  cases after <;> rfl

/-! ## Failures -/

/-- A text is turned away by a rule with these expectations: the rule does not match, or
the text goes on where its match ends. -/
inductive Grammar.Rejects (g : Grammar) (id : Nat) (source : String) : List Expectation → Prop
  | mismatch {r : Rule Grammar.Term} {raised : List Expectation} :
      g.rules[id]? = some r →
      Matching.Raises g (g.isTrivia id) [(id, 0)] (.productions r.productions) (.start source) raised
        none →
      g.Rejects id source raised
  | unfinished {r : Rule Grammar.Term} {raised : List Expectation} {d : Cursor} :
      g.rules[id]? = some r →
      Matching.Raises g (g.isTrivia id) [(id, 0)] (.productions r.productions) (.start source) raised
        (some d) →
      d.rest ≠ [] → g.Rejects id source (raised ++ [⟨d.offset, .endOfInput, []⟩])

namespace Grammar.Rejects

variable {g : Grammar} {id : Nat} {source : String} {raised : List Expectation}

theorem unique (rejects : g.Rejects id source raised) {other : List Expectation}
    (again : g.Rejects id source other) : other = raised := by
  cases rejects with
  | mismatch known raises =>
    cases again with
    | mismatch known' raises' =>
      obtain rfl := Option.some.inj (known.symm.trans known')
      exact (raises.unique raises').1
    | unfinished known' raises' =>
      obtain rfl := Option.some.inj (known.symm.trans known')
      cases (raises.unique raises').2
  | unfinished known raises =>
    cases again with
    | mismatch known' raises' =>
      obtain rfl := Option.some.inj (known.symm.trans known')
      cases (raises.unique raises').2
    | unfinished known' raises' =>
      obtain rfl := Option.some.inj (known.symm.trans known')
      obtain ⟨rfl, same⟩ := raises.unique raises'
      obtain rfl := Option.some.inj same
      rfl

theorem ne_nil (rejects : g.Rejects id source raised) : raised ≠ [] := by
  cases rejects with
  | mismatch _ raises => exact raises.ne_nil rfl
  | unfinished => exact List.append_ne_nil_of_right_ne_nil _ (List.cons_ne_nil _ _)

/-- Expectations stand at places of the text. -/
theorem isBoundary (rejects : g.Rejects id source raised) :
    ∀ x ∈ raised, Text.IsBoundary source x.offset := by
  have places {raised : List Expectation}
      (inside : ∀ x ∈ raised, ∃ d : Cursor, d.In source ∧ d.offset = x.offset) :
      ∀ x ∈ raised, Text.IsBoundary source x.offset := by
    intro x member
    obtain ⟨d, within, same⟩ := inside x member
    exact same ▸ within.isBoundary
  cases rejects with
  | mismatch _ raises => exact places (raises.within (Cursor.in_start source)).1
  | unfinished _ raises =>
    obtain ⟨inside, behind⟩ := raises.within (Cursor.in_start source)
    refine List.forall_mem_append.2 ⟨places inside, List.forall_mem_singleton.2 ?_⟩
    exact (behind _ rfl).isBoundary

end Grammar.Rejects

/-- What is said about a failure is read off the expectations that came up. -/
structure Explains (g : Grammar) (source : String) (raised : List Expectation) (e : ParseError) :
    Prop where
  nonempty : raised ≠ []
  /-- It stands at the greatest offset where something was looked for. -/
  reached : ∃ x ∈ raised, x.offset = e.span.start
  furthest : ∀ x ∈ raised, x.offset ≤ e.span.start
  /-- It covers the character there, which is what was found, and lists what was looked
  for. -/
  shown : ∃ before after wanted,
    source.toList = before ++ after ∧
    e.span = ⟨Text.width before, Text.width before + Text.width (after.take 1)⟩ ∧
    wanted ≠ [] ∧ wanted.Pairwise (· < ·) ∧
    (∀ text, text ∈ wanted ↔ ∃ x ∈ raised, x.offset = e.span.start ∧ x.what.shown = text) ∧
    e.message = mismatchMessage wanted ((after.head?.map Text.quoteChar).getD "end of input")
  /-- It names the rule that had started before that offset when it was first reached. -/
  origin : ∃ front x back origin,
    raised = front ++ x :: back ∧ x.offset = e.span.start ∧ (∀ y ∈ front, y.offset < e.span.start) ∧
    Origin e.span.start x.stack origin ∧
    e.related = origin.map fun r =>
      ("while parsing `" ++ g.ruleName r.1 ++ "`", characterAt source r.2)

theorem Grammar.Rejects.explains {g : Grammar} {id : Nat} {source : String} {raised : List Expectation}
    (rejects : g.Rejects id source raised) :
    Explains g source raised ((ParseFailure.mismatch raised).explain g source) := by
  have some := rejects.ne_nil
  obtain ⟨x, member, most⟩ := Expectation.exists_furthest some
  obtain ⟨before, after, split, place⟩ := rejects.isBoundary x member
  rw [most] at place
  have span : characterAt source (Expectation.furthest raised) =
      ⟨Expectation.furthest raised, Expectation.furthest raised + Text.width (after.take 1)⟩ := by
    rw [place]
    exact characterAt_width split
  have start : ((ParseFailure.mismatch raised).explain g source).span.start =
      Expectation.furthest raised := congrArg Span.start span
  have wanted : ∀ text, text ∈ Expectation.descriptions
        (Expectation.atOffset (Expectation.furthest raised) raised) ↔
      ∃ x ∈ raised, x.offset = Expectation.furthest raised ∧ x.what.shown = text := by
    intro text
    rw [Expectation.mem_descriptions, Expectation.atOffset]
    simp only [List.mem_filter, beq_iff_eq, and_assoc]
  constructor
  case nonempty => exact some
  case reached => exact start ▸ ⟨x, member, most⟩
  case furthest => exact start ▸ Expectation.le_furthest
  case shown =>
    rw [start]
    refine ⟨before, after, _, split, place ▸ span, ?_, Expectation.pairwise_descriptions, wanted, ?_⟩
    · exact List.ne_nil_of_mem ((wanted _).2 ⟨x, member, most, rfl⟩)
    · rw [← foundAt_width split, ← place]
      rfl
  case origin =>
    rw [start]
    obtain ⟨front, y, back, order, reached, first, origin⟩ := Expectation.exists_first some
    exact ⟨front, y, back, _, order, reached, first, origin, rfl⟩

/-- A text that a rule does not read is too long, or the rule comes back to itself from
the left, or the expectations that come up are determined and explain the failure. -/
theorem explain_of_parse {b : Blueprint} {g : Grammar} (built : b.build = .ok g) {rule source : String}
    {id : Nat} (known : g.ruleId? rule = some id) {failure : ParseFailure}
    (failed : g.parse rule source = .error failure) :
    (Span.limit < Text.width source.toList ∧ failure = .tooLong (Text.width source.toList)) ∨
    (¬ g.LeftAcyclic ∧ failure = .endless (g.ruleName id)) ∨
    ∃ raised, (∀ other, g.Rejects id source other ↔ other = raised) ∧
      Explains g source raised (failure.explain g source) := by
  have linked := linked_of_build built
  have inTable : id < g.rules.length := (List.findIdx?_eq_some_iff_getElem.1 known).1
  have explained {raised : List Expectation} (rejects : g.Rejects id source raised) :
      ∃ raised', (∀ other, g.Rejects id source other ↔ other = raised') ∧
        Explains g source raised' ((ParseFailure.mismatch raised).explain g source) :=
    ⟨raised, fun other => ⟨rejects.unique, fun same => same ▸ rejects⟩, rejects.explains⟩
  rw [Grammar.parse, known] at failed
  dsimp only at failed
  split_ifs at failed with long
  · obtain rfl := Except.error.inj failed
    exact .inl ⟨long, rfl⟩
  right
  rw [Grammar.parseRule] at failed
  split at failed
  · next none =>
    obtain rfl := Except.error.inj failed
    refine .inl ⟨fun acyclic => ?_, rfl⟩
    obtain ⟨a, settles⟩ :=
      Matching.callSettles_of_leftAcyclic acyclic (.start source) (id, false) inTable []
    have reach := Grammar.card_leftReach_lt_twice acyclic (x := (id, false)) inTable
    have deep : (2 * g.rules.length + 1) * source.toList.length
        + (g.leftReach (id, false)).card + 2 ≤ depthBound g source := by
      rw [depthBound, Nat.mul_succ]
      omega
    cases none.symm.trans (settles _ deep)
  · next a ended =>
    obtain ⟨raised, value⟩ := a
    obtain ⟨r, found, raises⟩ := Matching.callTraces_rule linked _ inTable ended
    right
    cases value with
    | none =>
      obtain rfl := Except.error.inj failed
      exact explained (.mismatch found raises)
    | some result =>
      obtain ⟨tree, d⟩ := result
      dsimp only at failed
      split_ifs at failed with done
      obtain rfl := Except.error.inj failed
      exact explained (.unfinished found raises (by simpa using done))

/-! ## A sum that is not closed -/

/-- Sums of `x` and of sums in parentheses, with blanks between their parts. -/
def operands : Blueprint where
  rules := [
    ⟨"sum", [⟨[{ term := .rule "operand" },
      { term := .group [⟨[{ slot := .allowed, term := .literal "+" },
          { slot := .allowed, term := .rule "operand" }], .none⟩],
        quantifier := .optional }], .none⟩]⟩,
    ⟨"operand", [⟨[{ term := .literal "x" }], .none⟩,
      ⟨[{ term := .literal "(" }, { slot := .allowed, term := .rule "sum" },
        { slot := .allowed, term := .literal ")" }], .none⟩]⟩,
    ⟨"blanks", [⟨[{ term := .literal " ", quantifier := .some }], .none⟩]⟩]
  trivia := some "blanks"

/-- The same sums with rules referred to by their places. -/
def linkedOperands : Grammar where
  rules := [
    ⟨"sum", [⟨[{ term := .rule 1 },
      { term := .group [⟨[{ slot := .allowed, term := .literal "+" },
          { slot := .allowed, term := .rule 1 }], .none⟩],
        quantifier := .optional }], .none⟩]⟩,
    ⟨"operand", [⟨[{ term := .literal "x" }], .none⟩,
      ⟨[{ term := .literal "(" }, { slot := .allowed, term := .rule 0 },
        { slot := .allowed, term := .literal ")" }], .none⟩]⟩,
    ⟨"blanks", [⟨[{ term := .literal " ", quantifier := .some }], .none⟩]⟩]
  trivia := some 2

/-- In `(x y)` the sum inside and the operand around it get equally far, the sum first. -/
theorem explain_of_parse_unclosed :
    let failure : ParseFailure := .mismatch [⟨0, .literal "x", [(1, 0), (0, 0)]⟩,
      ⟨3, .literal "+", [(0, 1), (1, 0), (0, 0)]⟩, ⟨3, .literal ")", [(1, 0), (0, 0)]⟩]
    operands.build = .ok linkedOperands ∧ linkedOperands.ruleId? "sum" = some 0 ∧
    linkedOperands.parse "sum" "(x y)" = .error failure ∧
    (failure.explain linkedOperands "(x y)").span = ⟨3, 4⟩ ∧
    (failure.explain linkedOperands "(x y)").related = some ("while parsing `sum`", ⟨1, 2⟩) ∧
    ((Span.limit < Text.width "(x y)".toList ∧ failure = .tooLong (Text.width "(x y)".toList)) ∨
      (¬ linkedOperands.LeftAcyclic ∧ failure = .endless (linkedOperands.ruleName 0)) ∨
      ∃ raised, (∀ other, linkedOperands.Rejects 0 "(x y)" other ↔ other = raised) ∧
        Explains linkedOperands "(x y)" raised (failure.explain linkedOperands "(x y)")) := by
  intro failure
  have built : operands.build = .ok linkedOperands := by with_unfolding_all rfl
  have known : linkedOperands.ruleId? "sum" = some 0 := by decide
  have failed : linkedOperands.parse "sum" "(x y)" = .error failure := by with_unfolding_all rfl
  exact ⟨built, known, failed, by with_unfolding_all rfl, by with_unfolding_all rfl,
    explain_of_parse built known failed⟩

end Reprint
