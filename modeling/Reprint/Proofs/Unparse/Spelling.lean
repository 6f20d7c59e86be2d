import Reprint.Proofs.Parse.Spelling
import Reprint.Proofs.Unparse.Plain

/-!
# The walk writes a spelling

Under the default style and in a grammar without blanks the walk writes down texts
only: those of the tokens that it takes, and suppressed literals where it comes by
them.  Whatever it decides on, a repetition once more or a group after all, the
texts that it has written when all children are taken are a spelling of the tree
(`exists_of_node`).
-/

namespace Reprint.Unparse

open Matching (Part)

/-! ## Texts -/

/-- An assembly goes on from another one with texts that are together this one. -/
def Writes (a b : Assembly) (text : List Char) : Prop :=
  b.brackets = a.brackets ∧
    ∃ words : List String, b.docs = a.docs ++ words.map Doc.text ∧ words.flatMap String.toList = text

namespace Writes

variable {a b c : Assembly} {text more : List Char}

theorem refl (a : Assembly) : Writes a a [] := ⟨rfl, [], (List.append_nil _).symm, rfl⟩

theorem trans (first : Writes a b text) (second : Writes b c more) : Writes a c (text ++ more) := by
  obtain ⟨brackets, words, docs, spelled⟩ := first
  obtain ⟨brackets', words', docs', spelled'⟩ := second
  refine ⟨brackets'.trans brackets, words ++ words', ?_, ?_⟩
  · rw [docs', docs, List.map_append, List.append_assoc]
  · rw [List.flatMap_append, spelled, spelled']

theorem addContent (a : Assembly) (word : String) : Writes a (a.addContent (.text word)) word.toList :=
  ⟨Assembly.brackets_push a _ _, [word], Assembly.docs_push a _ _, List.flatMap_singleton ..⟩

/-- Merging an assembly that was begun anew goes on with what it holds. -/
theorem merge {inner : Assembly} (written : Writes {} inner text) (merged : a.merge inner = .ok b) :
    Writes a b text := by
  obtain ⟨_, words, docs, spelled⟩ := written
  obtain ⟨_, appended, brackets, _⟩ := Assembly.exists_of_merge merged
  exact ⟨brackets, words, by rw [appended, docs]; rfl, spelled⟩

end Writes

/-! ## Parts -/

section Parts

variable {g : Grammar} {source : String}

/-- The walk through the tree of a child writes one of its spellings. -/
def Spelled (g : Grammar) (source : String) (c : Child) : Prop :=
  ∀ label body, c = .node label body →
    ((Walk.plain g source).node body false).Holds True fun a =>
      ∃ text, Writes {} a text ∧ Spelling g source body text

/-- Some of the children have been taken for a part of the grammar and written down. -/
def Taken (g : Grammar) (source : String) (part : Part) (cs : List Child) (a : Assembly) (q : Progress) :
    Prop :=
  ∃ taken rest text, cs = taken ++ rest ∧ q.1 = (Walk.plain g source).visits rest ∧ Writes a q.2 text ∧
    Spells g source part taken text

/-- The walk along a part of the grammar takes children for it. -/
def Takes (g : Grammar) (source : String) (part : Part) (walk : Progress → Walked Progress) : Prop :=
  ∀ {cs : List Child} (a : Assembly), (∀ c ∈ cs, Spelled g source c) →
    (walk ((Walk.plain g source).visits cs, a)).Holds True (Taken g source part cs a)

namespace Taken

variable {part : Part} {cs : List Child} {a b : Assembly} {q : Progress} {text : List Char}

theorem mono {other : Part} (taken : Taken g source part cs a q)
    (weaker : ∀ {children text}, Spells g source part children text → Spells g source other children text) :
    Taken g source other cs a q := by
  obtain ⟨children, rest, text, split, left, written, spelled⟩ := taken
  exact ⟨children, rest, text, split, left, written, weaker spelled⟩

/-- No child is taken, and nothing is written. -/
theorem none (spells : Spells g source part [] []) :
    Taken g source part cs a ((Walk.plain g source).visits cs, a) :=
  ⟨[], cs, [], rfl, rfl, .refl a, spells⟩

/-- The first child is taken. -/
theorem child {c : Child} (written : Writes a b text) (spells : Spells g source part [c] text) :
    Taken g source part (c :: cs) a ((Walk.plain g source).visits cs, b) :=
  ⟨[c], cs, text, rfl, rfl, written, spells⟩

/-- More children are taken behind those that were taken for an earlier part. -/
theorem append {whole : Part} {front : List Child} (written : Writes a b text)
    (taken : Taken g source part cs b q) (joined : ∀ {back more}, Spells g source part back more →
      Spells g source whole (front ++ back) (text ++ more)) :
    Taken g source whole (front ++ cs) a q := by
  obtain ⟨back, rest, more, rfl, left, further, spells'⟩ := taken
  exact ⟨front ++ back, rest, text ++ more, (List.append_assoc ..).symm, left, written.trans further,
    joined spells'⟩

end Taken

/-- One part and then another one, if they make up a third. -/
theorem Takes.andThen {first second whole : Part} {f h : Progress → Walked Progress}
    (one : Takes g source first f) (other : Takes g source second h)
    (joined : ∀ {front back text more}, Spells g source first front text →
      Spells g source second back more → Spells g source whole (front ++ back) (text ++ more)) :
    Takes g source whole fun p => (f p).andThen h := by
  intro cs a spelled
  refine (one a spelled).andThen ?_
  rintro ⟨vs, b⟩ ⟨front, rest, text, rfl, left, written, spells⟩
  obtain rfl : vs = _ := left
  have rested : ∀ c ∈ rest, Spelled g source c :=
    fun c member => spelled c (List.mem_append_right front member)
  exact (other b rested).mono fun _ taken => taken.append written (joined spells)

variable {rule : String}

/-- The context of a rule in the default style, outside trivia. -/
abbrev plainContext (g : Grammar) (source rule : String) : Context :=
  (Walk.plain g source).context rule false

theorem takes_leaf (label : Option String) (t : Grammar.Term) :
    Takes g source (.term label t) ((plainContext g source rule).leaf label t) := by
  intro cs a spelled
  generalize walked : (Walk.plain g source).visits cs = vs
  cases leafCase (plainContext g source rule) label t vs with
  | missing other =>
    rw [leaf_of_missing other]
    trivial
  | @token t v vs span text same found read =>
    rw [leaf_of_token same found read]
    obtain ⟨c, rest, rfl, rfl, rfl⟩ := visits_eq_cons.1 walked
    obtain rfl := (child_visit _ c).symm.trans same
    refine .child (.addContent a text) ?_
    cases read with
    | literal => exact .literal found
    | pattern all => exact .pattern found ⟨_, _, beq_iff_eq.1 all, List.take_length⟩
  | @node v vs body same =>
    rw [leaf_of_node same]
    obtain ⟨c, rest, rfl, rfl, rfl⟩ := visits_eq_cons.1 walked
    obtain rfl := (child_visit _ c).symm.trans same
    refine (spelled _ List.mem_cons_self label body rfl).andThen ?_
    rintro inner ⟨text, written, r, p, found, member, spells⟩
    refine (holds_ofExcept fun b merged => ?_).map fun _ held => held
    exact .child (written.merge merged) (.node found member spells)

theorem takes_once {i : Item Grammar.Term} (tight : i.slot = .none) (shown : i.suppressed = false)
    (takes : Takes g source (.term i.label i.term) (term (plainContext g source rule) i.label i.term)) :
    Takes g source (.once i) (once (plainContext g source rule) i) := by
  intro cs a spelled
  rw [once_plain rfl, tight, slot_none]
  exact (takes a spelled).mono fun _ taken => taken.mono (.shown shown)

/-- A suppressed literal is written without taking a child. -/
theorem takes_suppressed {i : Item Grammar.Term} (tight : i.slot = .none) (hidden : i.suppressed = true)
    (literal : ∃ text, i.term = .literal text) :
    Takes g source (.once i) ((plainContext g source rule).suppressed i.slot i.label i.term) := by
  intro cs a _
  obtain ⟨text, named⟩ := literal
  rw [Context.suppressed, tight, named, if_pos rfl, emit_plain rfl, regenerate]
  exact ⟨[], cs, text.toList, rfl, rfl, .addContent a text, .hidden hidden named⟩

theorem takes_repeated {i : Item Grammar.Term} {f : Progress → Walked Progress}
    (takes : Takes g source (.once i) f) {cs : List Child} (a : Assembly)
    (spelled : ∀ c ∈ cs, Spelled g source c) :
    (repeated f ((Walk.plain g source).visits cs, a)).Holds True fun r =>
      Taken g source (.repeats i r.1) cs a r.2 := by
  induction size : cs.length using Nat.strongRecOn generalizing cs a with
  | ind n ih =>
    subst size
    have first := takes a spelled
    rw [repeated]
    split
    · exact .none .zero
    · trivial
    · trivial
    · next q same =>
      rw [same] at first
      have taken : Taken g source (.once i) cs a q := first
      obtain ⟨front, rest, text, rfl, left, written, spells⟩ := first
      obtain ⟨vs, b⟩ := q
      obtain rfl : vs = _ := left
      split_ifs with fewer
      · simp only [visits_eq_map, List.length_map] at fewer
        have rested : ∀ c ∈ rest, Spelled g source c :=
          fun c member => spelled c (List.mem_append_right front member)
        exact (ih _ fewer b rested rfl).map fun _ taken => taken.append written (.succ spells)
      · exact taken.mono Spells.one

theorem takes_times {i : Item Grammar.Term} {f : Progress → Walked Progress}
    (takes : Takes g source (.once i) f) (count : Nat) :
    Takes g source (.repeats i count) (times f count) := by
  induction count with
  | zero => exact fun _ _ => .none .zero
  | succ count ih => exact takes.andThen ih .succ

theorem takes_quantified {i : Item Grammar.Term} {f : Progress → Walked Progress}
    (takes : Takes g source (.once i) f) : Takes g source (.item i) (quantified i.quantifier f) := by
  intro cs a spelled
  have many : i.quantifier.repeats → ((repeated f ((Walk.plain g source).visits cs, a)).andThen fun r =>
      if i.quantifier.least ≤ r.1 then .fits r.2 else .misfit).Holds True
        (Taken g source (.item i) cs a) := by
    intro repeats
    refine (takes_repeated takes a spelled).andThen ?_
    rintro ⟨count, q⟩ taken
    dsimp only at taken ⊢
    split_ifs with enough
    · exact taken.mono (.item enough (.inl repeats))
    · trivial
  unfold quantified
  split
  · exact (takes a spelled).mono fun _ taken => taken.mono Spells.single
  · next quantifier =>
    refine Walked.Holds.orElse ((takes a spelled).mono fun _ taken => taken.mono Spells.single) ?_
    refine Taken.none (.item ?_ (.inr (Nat.zero_le 1)) .zero)
    rw [quantifier]
    exact Nat.le_refl 0
  · next quantifier => exact many (by rw [quantifier]; rfl)
  · next quantifier => exact many (by rw [quantifier]; rfl)

theorem takes_item {i : Item Grammar.Term} (tight : i.slot = .none)
    (literal : i.suppressed → ∃ text, i.term = .literal text)
    (takes : Takes g source (.term i.label i.term) (term (plainContext g source rule) i.label i.term)) :
    Takes g source (.item i) (item (plainContext g source rule) i) := by
  cases shown : i.suppressed with
  | false =>
    intro cs a spelled
    rw [item_eq _ shown]
    exact takes_quantified (takes_once tight shown takes) a spelled
  | true =>
    intro cs a spelled
    have once : Takes g source (.once i)
        ((plainContext g source rule).suppressed i.slot i.label i.term) :=
      takes_suppressed tight shown (literal shown)
    have written := takes_times once i.quantifier.least a spelled
    have least : i.quantifier.least ≤ 1 := by cases i.quantifier <;> decide
    obtain ⟨slot, label, t, quantifier, suppressed⟩ := i
    obtain rfl : suppressed = true := shown
    rw [item, if_pos rfl]
    exact written.mono fun _ taken => taken.mono (.item (Nat.le_refl _) (.inr least))

theorem takes_items {is : List (Item Grammar.Term)}
    (takes : ∀ i ∈ is, Takes g source (.item i) (item (plainContext g source rule) i)) :
    Takes g source (.items is) (items (plainContext g source rule) is) := by
  induction is with
  | nil => exact fun _ _ => .none .nil
  | cons i is ih =>
    obtain ⟨first, others⟩ := List.forall_mem_cons.1 takes
    exact first.andThen (ih others) .cons

theorem takes_production {p : Production Grammar.Term} (condensed : p.Condensed)
    (takes : ∀ i ∈ p.items,
      Takes g source (.term i.label i.term) (term (plainContext g source rule) i.label i.term)) :
    Takes g source (.production p) (production (plainContext g source rule) p) := by
  obtain ⟨is, trailing⟩ := p
  obtain ⟨tight, each⟩ := condensed
  obtain rfl : trailing = .none := tight
  intro cs a spelled
  have all : Takes g source (.items is) (items (plainContext g source rule) is) := takes_items
    fun i member => takes_item (each i member).1 (each i member).2 (takes i member)
  rw [production]
  exact (all a spelled).andThen fun _ taken =>
    taken.mono (Spells.production (p := ⟨is, .none⟩))

theorem takes_productions {label : Option String} {whole ps : List (Production Grammar.Term)}
    (some : ∀ p ∈ ps, p ∈ whole)
    (takes : ∀ p ∈ ps, Takes g source (.production p) (production (plainContext g source rule) p)) :
    Takes g source (.term label (.group whole)) (productions (plainContext g source rule) ps) := by
  induction ps with
  | nil => exact fun _ _ => trivial
  | cons p ps ih =>
    obtain ⟨member, rest⟩ := List.forall_mem_cons.1 some
    obtain ⟨first, others⟩ := List.forall_mem_cons.1 takes
    intro cs a spelled
    rw [productions]
    exact Walked.Holds.orElse ((first a spelled).mono fun _ taken => taken.mono (.group member))
      (ih rest others a spelled)

theorem takes_term (t : Grammar.Term) (condensed : Throughout Production.Condensed t.productions) :
    ∀ label, Takes g source (.term label t) (term (plainContext g source rule) label t) := by
  induction t using Term.inductionOn with
  | rule | literal | pattern => exact fun label => takes_leaf label _
  | group ps ih =>
    intro label
    refine takes_productions (fun _ member => member) fun p member => ?_
    obtain ⟨own, deeper⟩ := condensed.of_mem member
    exact takes_production own fun i inside => ih p member i inside (deeper i inside) i.label

end Parts

/-! ## Trees -/

section Trees

variable {g : Grammar} (condensed : g.Condensed) {source : String}
include condensed

/-- No rule of a grammar without trivia is one for what stands in slots. -/
theorem isTrivia_eq_false (id : Nat) : g.isTrivia id = false := by
  rw [Grammar.isTrivia, condensed.trivia]
  rfl

theorem writes_whole {r : Rule Grammar.Term} {p : Production Grammar.Term} (known : r ∈ g.rules)
    (member : p ∈ r.productions) {cs : List Child} (spelled : ∀ c ∈ cs, Spelled g source c) :
    (whole (plainContext g source r.name) ((Walk.plain g source).visits cs) p).Holds True fun a =>
      ∃ text, Writes {} a text ∧ Spells g source (.production p) cs text := by
  obtain ⟨own, inner⟩ := (condensed.throughout r known).of_mem member
  have takes : Takes g source (.production p) (production (plainContext g source r.name) p) :=
    takes_production own fun i inside => takes_term i.term (inner i inside) i.label
  unfold whole
  rw [boundary_plain rfl]
  refine (takes {} spelled).andThen ?_
  rintro ⟨vs, b⟩ ⟨taken, rest, text, rfl, left, written, spells⟩
  obtain rfl : vs = _ := left
  dsimp only
  split_ifs with done
  · rw [boundary_plain rfl]
    have none : rest = [] := by simpa [visits_eq_map] using done
    rw [none, List.append_nil]
    exact ⟨text, written, spells⟩
  · trivial

theorem writes_alternatives {r : Rule Grammar.Term} (known : r ∈ g.rules)
    {ps : List (Production Grammar.Term)} (members : ∀ p ∈ ps, p ∈ r.productions) {cs : List Child}
    (spelled : ∀ c ∈ cs, Spelled g source c) :
    (alternatives (plainContext g source r.name) ((Walk.plain g source).visits cs) ps).Holds True fun a =>
      ∃ text, Writes {} a text ∧ ∃ p ∈ r.productions, Spells g source (.production p) cs text := by
  induction ps with
  | nil => trivial
  | cons p ps ih =>
    obtain ⟨member, others⟩ := List.forall_mem_cons.1 members
    refine Walked.Holds.orElse ((writes_whole condensed known member spelled).mono ?_) (ih others)
    rintro a ⟨text, written, spells⟩
    exact ⟨text, written, p, member, spells⟩

theorem writes_node {body : Tree} (spelled : ∀ c ∈ body.children, Spelled g source c) :
    ((Walk.plain g source).node body false).Holds True fun a =>
      ∃ text, Writes {} a text ∧ Spelling g source body text := by
  obtain ⟨id, span, children⟩ := body
  rw [Walk.node, Walk.rule]
  split
  · trivial
  · next r found =>
    rw [isTrivia_eq_false condensed]
    have known : r ∈ g.rules := List.mem_of_getElem? found
    refine (writes_alternatives condensed known (fun _ member => member) spelled).mono ?_
    rintro a ⟨text, written, p, member, spells⟩
    exact ⟨text, written, r, p, found, member, spells⟩

theorem spelled (c : Child) : Spelled g source c := by
  induction c with
  | token | trivia => nofun
  | node label body ih =>
    rintro _ _ ⟨⟩
    exact writes_node condensed ih

/-- The pieces of a tree that is retraced in the default style are texts, and
together they are a spelling of it. -/
theorem exists_of_node {tree : Tree} {a : Assembly}
    (walked : (Walk.plain g source).node tree false = .fits a) :
    ∃ words : List String, a.docs = words.map Doc.text ∧
      Spelling g source tree (words.flatMap String.toList) := by
  have each : ∀ c ∈ tree.children, Spelled g source c := fun c _ => spelled condensed c
  have written := writes_node condensed each
  rw [walked] at written
  obtain ⟨_, ⟨_, words, docs, rfl⟩, spelling⟩ := written
  exact ⟨words, docs, spelling⟩

end Trees

end Reprint.Unparse
