import Reprint.Proofs.Grammar
import Reprint.Proofs.Parse.Success

/-!
# Successful matches

What a successful match does is written down as a relation, `Run`, with one rule
for each way in which a part of a grammar can match.  It relates the place before
the part and the children that come from there on in the node of the rule to the
place behind the part and the children that are left there.

A match passes over parts: productions of a group that fail before another one
succeeds, and occurrences of an item that are not there.  The relation notes them
with the children that were left before and behind what was taken instead, and
it notes what patterns took.  The productions of a
rule itself are not noted: each of them is tried on all children.

`run_of_rule` says that the matching of rules in a grammar without suppressed
items does nothing else.
-/

namespace Reprint

namespace Matching

/-! ## Runs -/

/-- A part of a grammar that is matched. -/
inductive Part where
  | slot (sep : Separator)
  | term (label : Option String) (t : Grammar.Term)
  /-- One occurrence of an item, with its slot. -/
  | once (i : Item Grammar.Term)
  | item (i : Item Grammar.Term)
  /-- So many occurrences of an item, with none behind them. -/
  | repeats (i : Item Grammar.Term) (count : Nat)
  | items (is : List (Item Grammar.Term))
  | production (p : Production Grammar.Term)
  /-- The productions of a group. -/
  | productions (ps : List (Production Grammar.Term))

/-- A place, and the children of the rule's node from there on. -/
structure Stage where
  place : Cursor
  left : List Child

/-- What is noted about a match. -/
inductive Note where
  /-- A pattern took a text. -/
  | took (p : Pattern) (text : List Char)
  /-- A part was passed over in a rule with these children of its node left, and
  what was taken instead left those behind. -/
  | passed (rule : Nat) (inTrivia : Bool) (part : Part) (here behind : List Child)

/-- The note that a part was passed over, and what was taken instead led from one
stage to another. -/
def Site.pass (site : Site) (part : Part) (s t : Stage) : Note :=
  .passed site.rule site.inTrivia part s.left t.left

/-- How a part of a grammar matches, and what is noted about it. -/
inductive Run (g : Grammar) : Site → Part → Stage → Stage → List Note → Prop
  /-- No blanks may stand in the slot. -/
  | tight {site : Site} {s : Stage} : Run g site (.slot .none) s s []
  /-- Inside trivia a slot takes all blanks. -/
  | blanks {site : Site} {sep : Separator} {c : Cursor} {left : List Child} {text : List Char} :
      sep ≠ .none → site.inTrivia → c.rest.takeWhile Text.isBlank = text → text ≠ [] →
      Run g site (.slot sep) ⟨c, .token none (c.spanTo (c.advance text.length)) :: left⟩
        ⟨c.advance text.length, left⟩ []
  | noBlanks {site : Site} {s : Stage} :
      site.inTrivia → s.place.rest.takeWhile Text.isBlank = [] → Run g site (.slot .allowed) s s []
  /-- Without a rule for trivia nothing stands in slots. -/
  | untold {site : Site} {sep : Separator} {s : Stage} :
      sep ≠ .none → site.inTrivia = false → g.trivia = none → Run g site (.slot sep) s s []
  /-- A slot takes trivia that is not empty. -/
  | trivia {site : Site} {sep : Separator} {id depth : Nat} {r : Rule Grammar.Term}
      {p : Production Grammar.Term} {c d : Cursor} {children left : List Child} {log : List Note} :
      sep ≠ .none → site.inTrivia = false → g.trivia = some id → site.depth = depth + 1 →
      (rule g site.depth id true site.stack c).Gives (some (⟨id, c.spanTo d, children⟩, d)) →
      c.offset ≠ d.offset → g.rules[id]? = some r →
      First ((Site.of g id depth true site.stack c).context g) r.productions p c →
      Run g (.of g id depth true site.stack c) (.production p) ⟨c, children⟩ ⟨d, []⟩ log →
      Run g site (.slot sep) ⟨c, .trivia none ⟨id, c.spanTo d, children⟩ :: left⟩ ⟨d, left⟩ log
  | noTrivia {site : Site} {id : Nat} {s : Stage} :
      site.inTrivia = false → g.trivia = some id →
      (∀ tree d, (rule g site.depth id true site.stack s.place).Gives (some (tree, d)) →
        tree.span.isEmpty) →
      Run g site (.slot .allowed) s s []
  | literal {site : Site} {label : Option String} {text : String} {c : Cursor} {left : List Child} :
      text.toList <+: c.rest →
      Run g site (.term label (.literal text))
        ⟨c, .token label (c.spanTo (c.advance text.toList.length)) :: left⟩
        ⟨c.advance text.toList.length, left⟩ []
  | pattern {site : Site} {label : Option String} {p : Pattern} {count : Nat} {c : Cursor}
      {left : List Child} :
      p.taken? c.rest = some count →
      Run g site (.term label (.pattern p)) ⟨c, .token label (c.spanTo (c.advance count)) :: left⟩
        ⟨c.advance count, left⟩ [.took p (c.rest.take count)]
  | node {site : Site} {label : Option String} {id depth : Nat} {r : Rule Grammar.Term}
      {p : Production Grammar.Term} {c d : Cursor} {children left : List Child} {log : List Note} :
      site.depth = depth + 1 → g.rules[id]? = some r →
      First ((Site.of g id depth site.inTrivia site.stack c).context g) r.productions p c →
      Run g (.of g id depth site.inTrivia site.stack c) (.production p) ⟨c, children⟩ ⟨d, []⟩ log →
      Run g site (.term label (.rule id)) ⟨c, .node label ⟨id, c.spanTo d, children⟩ :: left⟩
        ⟨d, left⟩ log
  | group {site : Site} {label : Option String} {ps : List (Production Grammar.Term)} {s t : Stage}
      {log : List Note} :
      Run g site (.productions ps) s t log → Run g site (.term label (.group ps)) s t log
  | once {site : Site} {i : Item Grammar.Term} {s t u : Stage} {log log' : List Note} :
      Run g site (.slot i.slot) s t log → Run g site (.term i.label i.term) t u log' →
      Run g site (.once i) s u (log ++ log')
  | single {site : Site} {i : Item Grammar.Term} {s t : Stage} {log : List Note} :
      i.suppressed = false → i.quantifier.repeats = false → Run g site (.once i) s t log →
      Run g site (.item i) s t log
  | absent {site : Site} {i : Item Grammar.Term} {s : Stage} :
      i.suppressed = false → i.quantifier = .optional →
      (Matching.once (site.context g) i s.place).Gives none →
      Run g site (.item i) s s [site.pass (.once i) s s]
  | many {site : Site} {i : Item Grammar.Term} {count : Nat} {s t : Stage} {log : List Note} :
      i.suppressed = false → i.quantifier.repeats → i.quantifier.least ≤ count →
      Run g site (.repeats i count) s t log → Run g site (.item i) s t log
  | stop {site : Site} {i : Item Grammar.Term} {s : Stage} :
      (Matching.once (site.context g) i s.place).Gives none →
      Run g site (.repeats i 0) s s [site.pass (.once i) s s]
  /-- An occurrence that takes no text is the last one.  If it leaves a child,
  another one is passed over. -/
  | last {site : Site} {i : Item Grammar.Term} {s t : Stage} {log : List Note} :
      Run g site (.once i) s t log → ¬ t.place.rest.length < s.place.rest.length →
      Run g site (.repeats i 1) s t
        (log ++ if t.left.length < s.left.length then [site.pass (.once i) t t] else [])
  | more {site : Site} {i : Item Grammar.Term} {count : Nat} {s t u : Stage} {log log' : List Note} :
      Run g site (.once i) s t log → t.place.rest.length < s.place.rest.length →
      Run g site (.repeats i count) t u log' → Run g site (.repeats i (count + 1)) s u (log ++ log')
  | nil {site : Site} {s : Stage} : Run g site (.items []) s s []
  | cons {site : Site} {i : Item Grammar.Term} {is : List (Item Grammar.Term)} {s t u : Stage}
      {log log' : List Note} :
      Run g site (.item i) s t log → Run g site (.items is) t u log' →
      Run g site (.items (i :: is)) s u (log ++ log')
  | production {site : Site} {p : Production Grammar.Term} {s t u : Stage} {log log' : List Note} :
      Run g site (.items p.items) s t log → Run g site (.slot p.trailing) t u log' →
      Run g site (.production p) s u (log ++ log')
  | here {site : Site} {p : Production Grammar.Term} {ps : List (Production Grammar.Term)} {s t : Stage}
      {log : List Note} :
      Run g site (.production p) s t log → Run g site (.productions (p :: ps)) s t log
  | next {site : Site} {p : Production Grammar.Term} {ps : List (Production Grammar.Term)} {s t : Stage}
      {log : List Note} :
      (Matching.production (site.context g) p s.place).Gives none →
      Run g site (.productions ps) s t log →
      Run g site (.productions (p :: ps)) s t (site.pass (.production p) s t :: log)

/-! ## Matching runs -/

/-- Every success of rules at a depth is a run of one of their productions. -/
def CallsRun (g : Grammar) (depth : Nat) : Prop :=
  ∀ {id : Nat} {inTrivia : Bool} {stack : RuleStack} {c d : Cursor} {tree : Tree},
    (rule g depth id inTrivia stack c).Gives (some (tree, d)) →
    ∃ inner r p children log, depth = inner + 1 ∧ g.rules[id]? = some r ∧
      First ((Site.of g id inner inTrivia stack c).context g) r.productions p c ∧
      tree = ⟨id, c.spanTo d, children⟩ ∧
      Run g (.of g id inner inTrivia stack c) (.production p) ⟨c, children⟩ ⟨d, []⟩ log

/-- Every success of a part is a run, whatever children follow. -/
def PartRuns (g : Grammar) (site : Site) (part : Part) (attempt : Cursor → Attempted Found) : Prop :=
  ∀ {c d : Cursor} {children : List Child} (left : List Child),
    (attempt c).Gives (some (children, d)) →
    ∃ log, Run g site part ⟨c, children ++ left⟩ ⟨d, left⟩ log

section Runs

variable {g : Grammar} {site : Site}

theorem run_slot (calls : CallsRun g site.depth) (sep : Separator) :
    PartRuns g site (.slot sep) ((site.context g).slot sep) := by
  intro c d children left given
  cases slotTakes_of_gives given with
  | tight => exact ⟨[], .tight⟩
  | blanks some inTrivia text nonempty => exact ⟨[], .blanks some inTrivia text nonempty⟩
  | noBlanks inTrivia none => exact ⟨[], .noBlanks inTrivia none⟩
  | untold some outside none => exact ⟨[], .untold some outside none⟩
  | trivia some outside known called nonempty =>
    obtain ⟨depth, r, p, inside, log, deep, found, chosen, rfl, run⟩ := calls called
    have moved : c.offset ≠ d.offset := fun same => nonempty (beq_iff_eq.2 same)
    exact ⟨log, .trivia some outside known deep called moved found chosen run⟩
  | noTrivia outside known empty => exact ⟨[], .noTrivia outside known empty⟩

theorem run_literal (label : Option String) (text : String) :
    PartRuns g site (.term label (.literal text)) ((site.context g).literal label text) := by
  intro c d children left given
  obtain ⟨found, rfl, rfl⟩ := gives_literal.1 given
  exact ⟨[], .literal found⟩

theorem run_pattern (label : Option String) (p : Pattern) :
    PartRuns g site (.term label (.pattern p)) ((site.context g).pattern label p) := by
  intro c d children left given
  obtain ⟨count, found, rfl, rfl⟩ := gives_pattern.1 given
  exact ⟨_, .pattern found⟩

theorem run_node (calls : CallsRun g site.depth) (label : Option String) (id : Nat) :
    PartRuns g site (.term label (.rule id)) (term (site.context g) label (.rule id)) := by
  intro c d children left given
  obtain ⟨tree, called, rfl⟩ := gives_node.1 given
  obtain ⟨depth, r, p, inside, log, deep, known, chosen, rfl, run⟩ := calls called
  exact ⟨log, .node deep known chosen run⟩

/-! ## Items and productions -/

/-- Every success of a term is a run, under any label. -/
def TermRuns (g : Grammar) (site : Site) (t : Grammar.Term) : Prop :=
  ∀ label, PartRuns g site (.term label t) (term (site.context g) label t)

theorem run_once (calls : CallsRun g site.depth) {i : Item Grammar.Term}
    (shown : i.suppressed = false) (runs : TermRuns g site i.term) :
    PartRuns g site (.once i) (once (site.context g) i) := by
  intro c d children left given
  obtain ⟨before, e, inside, slotted, matched, rfl⟩ := gives_once.1 given
  obtain ⟨log, slot⟩ := run_slot calls i.slot (inside ++ left) slotted
  obtain ⟨log', term⟩ := runs i.label left matched
  rw [if_neg (by simp [shown]), List.append_assoc]
  exact ⟨_, .once slot term⟩

theorem run_repeated {i : Item Grammar.Term}
    (runs : PartRuns g site (.once i) (once (site.context g) i)) (c : Cursor) {count : Nat}
    {children : List Child} {d : Cursor} (left : List Child)
    (given : (repeated (once (site.context g) i) c).Gives (some (count, children, d))) :
    ∃ log, Run g site (.repeats i count) ⟨c, children ++ left⟩ ⟨d, left⟩ log := by
  induction size : c.rest.length using Nat.strongRecOn generalizing c count children with
  | ind n ih =>
    subst size
    rw [repeated] at given
    obtain ⟨result, first, given⟩ := Attempted.gives_proceed.1 given
    split at given
    · obtain ⟨rfl, rfl, rfl⟩ := by simpa using given
      exact ⟨_, .stop first⟩
    · next found e =>
      split_ifs at given with progress
      · obtain ⟨⟨count', more, f⟩, rest, same⟩ := Attempted.gives_map.1 given
        obtain ⟨rfl, rfl, rfl⟩ := by simpa using same
        obtain ⟨log, once⟩ := runs (more ++ left) first
        obtain ⟨log', others⟩ := ih _ progress e rest rfl
        rw [List.append_assoc]
        exact ⟨_, .more once progress others⟩
      · obtain ⟨rfl, rfl, rfl⟩ := by simpa using given
        obtain ⟨log, once⟩ := runs left first
        exact ⟨_, .last once progress⟩

theorem run_item {i : Item Grammar.Term} (shown : i.suppressed = false)
    (runs : PartRuns g site (.once i) (once (site.context g) i)) :
    PartRuns g site (.item i) (item (site.context g) i) := by
  intro c d children left given
  rw [item_eq] at given
  unfold quantified at given
  have many : i.quantifier.repeats → ((repeated (once (site.context g) i) c).andThen fun r =>
      if i.quantifier.least ≤ r.1 then .succeed r.2 else .fail).Gives (some (children, d)) →
      ∃ log, Run g site (.item i) ⟨c, children ++ left⟩ ⟨d, left⟩ log := by
    intro repeats given
    obtain ⟨⟨count, found⟩, rest, given⟩ := Attempted.gives_andThen.1 given
    split_ifs at given with enough
    · obtain rfl := Option.some.inj (Attempted.gives_succeed.1 given)
      obtain ⟨log, run⟩ := run_repeated runs c left rest
      exact ⟨log, .many shown repeats enough run⟩
    · simp at given
  split at given
  · next quantifier =>
    obtain ⟨log, run⟩ := runs left given
    exact ⟨log, .single shown (by rw [quantifier]; rfl) run⟩
  · next quantifier =>
    rcases Attempted.gives_orElse.1 given with present | ⟨rejected, given⟩
    · obtain ⟨log, run⟩ := runs left present
      exact ⟨log, .single shown (by rw [quantifier]; rfl) run⟩
    · obtain ⟨rfl, rfl⟩ := by simpa using given
      exact ⟨_, .absent shown quantifier rejected⟩
  · next quantifier => exact many (by rw [quantifier]; rfl) given
  · next quantifier => exact many (by rw [quantifier]; rfl) given

theorem run_items {is : List (Item Grammar.Term)}
    (runs : ∀ i ∈ is, PartRuns g site (.item i) (item (site.context g) i)) :
    PartRuns g site (.items is) (items (site.context g) is) := by
  induction is with
  | nil =>
    intro c d children left given
    obtain ⟨rfl, rfl⟩ := gives_nil.1 given
    exact ⟨[], .nil⟩
  | cons i is ih =>
    intro c d children left given
    obtain ⟨first, others⟩ := List.forall_mem_cons.1 runs
    obtain ⟨front, e, back, one, rest, rfl⟩ := gives_cons.1 given
    obtain ⟨log, run⟩ := first (back ++ left) one
    obtain ⟨log', run'⟩ := ih others left rest
    rw [List.append_assoc]
    exact ⟨_, .cons run run'⟩

theorem run_production (calls : CallsRun g site.depth) {p : Production Grammar.Term}
    (runs : ∀ i ∈ p.items, PartRuns g site (.item i) (item (site.context g) i)) :
    PartRuns g site (.production p) (production (site.context g) p) := by
  intro c d children left given
  obtain ⟨front, e, back, body, slotted, rfl⟩ := gives_production.1 given
  obtain ⟨log, run⟩ := run_items runs (back ++ left) body
  obtain ⟨log', run'⟩ := run_slot calls p.trailing left slotted
  rw [List.append_assoc]
  exact ⟨_, .production run run'⟩

theorem run_productions {ps : List (Production Grammar.Term)}
    (runs : ∀ p ∈ ps, PartRuns g site (.production p) (production (site.context g) p)) :
    PartRuns g site (.productions ps) (productions (site.context g) ps) := by
  induction ps with
  | nil =>
    intro c d children left given
    simp [productions] at given
  | cons p ps ih =>
    intro c d children left given
    obtain ⟨first, others⟩ := List.forall_mem_cons.1 runs
    rw [productions] at given
    rcases Attempted.gives_orElse.1 given with here | ⟨rejected, given⟩
    · obtain ⟨log, run⟩ := first left here
      exact ⟨log, .here run⟩
    · obtain ⟨log, run⟩ := ih others left given
      exact ⟨_, .next rejected run⟩

/-- The items of a production run if their terms do. -/
theorem run_production_of_terms (calls : CallsRun g site.depth) {p : Production Grammar.Term}
    (shown : ∀ i ∈ p.items, i.suppressed = false) (runs : ∀ i ∈ p.items, TermRuns g site i.term) :
    PartRuns g site (.production p) (production (site.context g) p) :=
  run_production calls fun i member =>
    run_item (shown i member) (run_once calls (shown i member) (runs i member))

theorem run_term (calls : CallsRun g site.depth) (t : Grammar.Term)
    (shown : Throughout (fun p => ∀ i ∈ p.items, i.suppressed = false) t.productions) :
    TermRuns g site t := by
  induction t using Term.inductionOn with
  | rule id => exact fun label => run_node calls label id
  | literal text =>
    intro label c d children left given
    exact run_literal label text left given
  | pattern p =>
    intro label c d children left given
    exact run_pattern label p left given
  | group ps ih =>
    intro label c d children left given
    rw [term] at given
    have runs : ∀ p ∈ ps, PartRuns g site (.production p) (production (site.context g) p) := by
      intro p member
      obtain ⟨own, inner⟩ := shown.of_mem member
      exact run_production_of_terms calls own fun i inside => ih p member i inside (inner i inside)
    obtain ⟨log, run⟩ := run_productions runs left given
    exact ⟨log, .group run⟩

end Runs

/-- The matching of a rule in a grammar without suppressed items is a run of one
of its productions. -/
theorem run_of_rule {g : Grammar} (unsuppressed : g.Unsuppressed) (depth : Nat) : CallsRun g depth := by
  induction depth with
  | zero =>
    intro id inTrivia stack c d tree given
    exact absurd given not_gives_rule_zero
  | succ depth ih =>
    intro id inTrivia stack c d tree given
    obtain ⟨r, p, children, found, first, matched, rfl⟩ := exists_of_rule given
    let site : Site := .of g id depth inTrivia stack c
    obtain ⟨shown, inner⟩ := (unsuppressed.of_getElem? found).of_mem first.mem
    have runs : PartRuns g site (.production p) (production (site.context g) p) :=
      run_production_of_terms ih shown fun i member => run_term ih i.term (inner i member)
    obtain ⟨log, run⟩ := runs [] matched
    rw [List.append_nil] at run
    exact ⟨depth, r, p, children, log, rfl, found, first, rfl, run⟩

/-! ## Reading -/

/-- The run by which a text is read into a tree, and what is noted about it. -/
inductive Reads (g : Grammar) (source : String) : Tree → List Note → Prop
  | whole {id depth : Nat} {r : Rule Grammar.Term} {p : Production Grammar.Term} {d : Cursor}
      {children : List Child} {log : List Note} :
      g.rules[id]? = some r →
      First ((Site.of g id depth false [] (.start source)).context g) r.productions p (.start source) →
      Run g (.of g id depth false [] (.start source)) (.production p) ⟨.start source, children⟩ ⟨d, []⟩
        log →
      d.rest = [] → depthBound g source = depth + 1 →
      Reads g source ⟨id, (Cursor.start source).spanTo d, children⟩ log

/-- A text is parsed by reading it into a tree of the rule. -/
theorem reads_of_parse {g : Grammar} (unsuppressed : g.Unsuppressed) {name source : String} {tree : Tree}
    (parsed : g.parse name source = .ok tree) :
    g.ruleId? name = some tree.rule ∧ ∃ log, Reads g source tree log := by
  obtain ⟨id, d, known, done, given⟩ := exists_of_parse parsed
  obtain ⟨depth, r, p, children, log, deep, found, first, rfl, run⟩ := run_of_rule unsuppressed _ given
  exact ⟨known, log, .whole found first run done deep⟩

end Matching

end Reprint
