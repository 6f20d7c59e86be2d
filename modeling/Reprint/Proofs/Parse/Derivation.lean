import Reprint.Proofs.Parse.Spans

/-!
# Parsed trees are derivations

A derivation says of each node of a tree by which production of its rule its children
came about: which of them stand in which slot and belong to which occurrence of which
item (`Derives`).  It is what a grammar says about trees, whatever order productions
are tried in and however far repetitions go.

The tree that a text is parsed into is one (`derivation_of_parse`).  What the matcher
gives up on the way leaves no child behind, and what it finds for a part of a
production is derived by that part.
-/

namespace Reprint

/-! ## Derivations -/

open Matching (Part) in
/-- The children that a part of a grammar stands for, inside or outside trivia. -/
inductive Derives (g : Grammar) (source : String) : Bool → Part → List Child → Prop
  /-- Nothing stands in a slot.  Something has to stand where blanks are required, unless
  nothing is told about trivia. -/
  | empty {inTrivia : Bool} {sep : Separator} :
      (sep = .required → inTrivia = false ∧ g.trivia = none) →
      Derives g source inTrivia (.slot sep) []
  /-- Inside trivia blank text stands in a slot. -/
  | blanks {sep : Separator} {span : Span} {text : String} :
      sep ≠ .none → span.slice? source = some text → text ≠ "" → Text.allBlank text →
      Derives g source true (.slot sep) [.token none span]
  /-- Outside trivia the rule for trivia stands in a slot. -/
  | trivia {sep : Separator} {id : Nat} {r : Rule Grammar.Term} {p : Production Grammar.Term}
      {span : Span} {children : List Child} :
      sep ≠ .none → g.trivia = some id → span.isEmpty = false →
      g.rules[id]? = some r → p ∈ r.productions → Derives g source true (.production p) children →
      Derives g source false (.slot sep) [.trivia none ⟨id, span, children⟩]
  | literal {inTrivia : Bool} {label : Option String} {text : String} {span : Span} :
      span.slice? source = some text →
      Derives g source inTrivia (.term label (.literal text)) [.token label span]
  | pattern {inTrivia : Bool} {label : Option String} {p : Pattern} {span : Span} :
      p.matchAt? source span.start = some span.stop →
      Derives g source inTrivia (.term label (.pattern p)) [.token label span]
  | node {inTrivia : Bool} {label : Option String} {id : Nat} {r : Rule Grammar.Term}
      {p : Production Grammar.Term} {span : Span} {children : List Child} :
      g.rules[id]? = some r → p ∈ r.productions →
      Derives g source (inTrivia || g.isTrivia id) (.production p) children →
      Derives g source inTrivia (.term label (.rule id)) [.node label ⟨id, span, children⟩]
  | group {inTrivia : Bool} {label : Option String} {p : Production Grammar.Term}
      {ps : List (Production Grammar.Term)} {children : List Child} :
      p ∈ ps → Derives g source inTrivia (.production p) children →
      Derives g source inTrivia (.term label (.group ps)) children
  | shown {inTrivia : Bool} {i : Item Grammar.Term} {before children : List Child} :
      i.suppressed = false → Derives g source inTrivia (.slot i.slot) before →
      Derives g source inTrivia (.term i.label i.term) children →
      Derives g source inTrivia (.once i) (before ++ children)
  /-- Of a suppressed item no child is left, and none of its slot. -/
  | hidden {inTrivia : Bool} {i : Item Grammar.Term} {before children : List Child} :
      i.suppressed = true → Derives g source inTrivia (.slot i.slot) before →
      Derives g source inTrivia (.term i.label i.term) children →
      Derives g source inTrivia (.once i) []
  | zero {inTrivia : Bool} {i : Item Grammar.Term} : Derives g source inTrivia (.repeats i 0) []
  | succ {inTrivia : Bool} {i : Item Grammar.Term} {count : Nat} {front back : List Child} :
      Derives g source inTrivia (.once i) front →
      Derives g source inTrivia (.repeats i count) back →
      Derives g source inTrivia (.repeats i (count + 1)) (front ++ back)
  | item {inTrivia : Bool} {i : Item Grammar.Term} {count : Nat} {children : List Child} :
      i.quantifier.least ≤ count → i.quantifier.repeats ∨ count ≤ 1 →
      Derives g source inTrivia (.repeats i count) children →
      Derives g source inTrivia (.item i) children
  | nil {inTrivia : Bool} : Derives g source inTrivia (.items []) []
  | cons {inTrivia : Bool} {i : Item Grammar.Term} {is : List (Item Grammar.Term)}
      {front back : List Child} :
      Derives g source inTrivia (.item i) front → Derives g source inTrivia (.items is) back →
      Derives g source inTrivia (.items (i :: is)) (front ++ back)
  | production {inTrivia : Bool} {p : Production Grammar.Term} {front back : List Child} :
      Derives g source inTrivia (.items p.items) front →
      Derives g source inTrivia (.slot p.trailing) back →
      Derives g source inTrivia (.production p) (front ++ back)

/-- A tree whose children, and theirs at every depth, come from productions. -/
def Derivation (g : Grammar) (source : String) (inTrivia : Bool) (tree : Tree) : Prop :=
  ∃ r p, g.rules[tree.rule]? = some r ∧ p ∈ r.productions ∧
    Derives g source (inTrivia || g.isTrivia tree.rule) (.production p) tree.children

/-- Every tree inside a derivation is one. -/
theorem Derives.derivation_of_mem {g : Grammar} {source : String} {inTrivia : Bool}
    {part : Matching.Part} {children : List Child}
    (derives : Derives g source inTrivia part children) :
    ∀ x ∈ partsAll children, ∀ body ∈ x.body?, ∃ inTrivia, Derivation g source inTrivia body := by
  rw [partsAll_eq_flatMap]
  induction derives with
  | empty | zero | nil | hidden => exact List.forall_mem_nil _
  | blanks | literal | pattern => simp [Child.parts, Child.body?]
  | trivia some known moved found member derives ih =>
    rw [List.flatMap_singleton, Child.parts_eq_cons rfl]
    refine List.forall_mem_cons.2 ⟨?_, by rwa [Node.parts, partsAll_eq_flatMap]⟩
    rintro _ ⟨⟩
    exact ⟨true, _, _, found, member, derives⟩
  | node found member derives ih =>
    rw [List.flatMap_singleton, Child.parts_eq_cons rfl]
    refine List.forall_mem_cons.2 ⟨?_, by rwa [Node.parts, partsAll_eq_flatMap]⟩
    rintro _ ⟨⟩
    exact ⟨_, _, _, found, member, derives⟩
  | group _ _ ih | item _ _ _ ih => exact ih
  | shown _ _ _ first second | succ _ _ first second | cons _ _ first second
  | production _ _ first second =>
    rw [List.flatMap_append]
    exact List.forall_mem_append.2 ⟨first, second⟩

theorem Derivation.derivation_of_mem {g : Grammar} {source : String} {inTrivia : Bool} {tree : Tree}
    (whole : Derivation g source inTrivia tree) :
    ∀ t ∈ tree.trees, ∃ inTrivia, Derivation g source inTrivia t := by
  refine List.forall_mem_cons.2 ⟨⟨inTrivia, whole⟩, fun body member => ?_⟩
  obtain ⟨r, p, found, own, derives⟩ := whole
  obtain ⟨x, part, inner⟩ := List.mem_filterMap.1 member
  exact derives.derivation_of_mem x part body inner

/-- A derivation is a tree of the grammar. -/
theorem Derivation.of {g : Grammar} {source : String} {inTrivia : Bool} {tree : Tree}
    (whole : Derivation g source inTrivia tree) : tree.Of g := by
  intro body member
  obtain ⟨_, r, p, found, _, _⟩ := whole.derivation_of_mem body member
  exact (List.getElem?_eq_some_iff.1 found).1

/-! ## Matching derives -/

namespace Matching

variable {g : Grammar} {source : String}

/-- The children that an attempt finds are derived by a part of the grammar. -/
def Derived (g : Grammar) (source : String) (inTrivia : Bool) (part : Part)
    (attempt : Cursor → Attempted Found) : Prop :=
  ∀ {c d : Cursor} {children : List Child}, c.In source →
    (attempt c).Gives (some (children, d)) → Derives g source inTrivia part children

/-- The trees that rules find are derivations. -/
def CallDerived (g : Grammar) (source : String)
    (call : Nat → Bool → RuleStack → Cursor → Attempted (Tree × Cursor)) : Prop :=
  ∀ {id : Nat} {inTrivia : Bool} {stack : RuleStack} {c d : Cursor} {tree : Tree}, c.In source →
    (call id inTrivia stack c).Gives (some (tree, d)) →
    tree.rule = id ∧ Derivation g source inTrivia tree

theorem in_of_spreads {attempt : Cursor → Attempted Found} (spreads : Spreads attempt)
    {c d : Cursor} {children : List Child} (within : c.In source)
    (given : (attempt c).Gives (some (children, d))) : d.In source := by
  obtain ⟨text, ahead⟩ := (spreads given).exists_ahead
  exact within.ahead ahead

section Derived

variable {ctx : Context} (own : ctx.grammar = g) (spread : CallSpreads ctx.call)
  (calls : CallDerived g source ctx.call)

include own calls in
theorem derived_slot (sep : Separator) :
    Derived g source ctx.inTrivia (.slot sep) (ctx.slot sep) := by
  intro c d children within given
  cases slotTakes_of_gives given with
  | tight | noBlanks | noTrivia => exact .empty nofun
  | untold _ outside none => exact .empty fun _ => ⟨outside, own ▸ none⟩
  | @blanks _ text some inTrivia same nonempty =>
    have ahead := Cursor.ahead_advance c text.length
    rw [← same, take_length_takeWhile, same] at ahead
    rw [inTrivia]
    refine .blanks some (ahead.slice?_spanTo within) ?_ ?_
    · exact fun none => nonempty (String.ofList_eq_empty_iff.1 none)
    · rw [Text.allBlank, String.toList_ofList, ← same, List.all_takeWhile]
  | trivia some outside known called nonempty =>
    obtain ⟨rfl, r, p, found, member, derives⟩ := calls within called
    rw [outside]
    exact .trivia some (own ▸ known) (Bool.eq_false_iff.2 nonempty) found member derives

theorem derived_literal (label : Option String) (text : String) :
    Derived g source ctx.inTrivia (.term label (.literal text)) (ctx.literal label text) := by
  intro c d children within given
  obtain ⟨found, rfl, rfl⟩ := gives_literal.1 given
  have ahead := Cursor.ahead_advance c text.toList.length
  rw [← List.prefix_iff_eq_take.1 found] at ahead
  refine .literal ?_
  rw [ahead.slice?_spanTo within, String.ofList_toList]

theorem derived_pattern (label : Option String) (p : Pattern) :
    Derived g source ctx.inTrivia (.term label (.pattern p)) (ctx.pattern label p) := by
  intro c d children within given
  obtain ⟨count, found, rfl, rfl⟩ := gives_pattern.1 given
  refine .pattern ?_
  obtain ⟨before, start⟩ := within
  have rest : Text.dropBytes? c.offset source.toList = some c.rest := by
    have whole : source.toList = before ++ c.rest := start.1
    have offset : c.offset = Text.width before := start.2.trans (Nat.zero_add _)
    rw [whole, offset, Text.dropBytes?_append]
  show (Text.dropBytes? c.offset source.toList).bind _ = _
  rw [rest]
  simp only [Option.bind_some, found]
  rfl

include calls in
theorem derived_node (label : Option String) (id : Nat) :
    Derived g source ctx.inTrivia (.term label (.rule id)) (term ctx label (.rule id)) := by
  intro c d children within given
  obtain ⟨tree, called, rfl⟩ := gives_node.1 given
  obtain ⟨rfl, r, p, found, member, derives⟩ := calls within called
  exact .node found member derives

include own spread calls in
theorem derived_once {i : Item Grammar.Term}
    (derived : Derived g source ctx.inTrivia (.term i.label i.term) (term ctx i.label i.term)) :
    Derived g source ctx.inTrivia (.once i) (once ctx i) := by
  intro c d children within given
  obtain ⟨before, e, inside, slotted, matched, rfl⟩ := gives_once.1 given
  have slot := derived_slot own calls i.slot within slotted
  have matched := derived (in_of_spreads (spreads_slot spread i.slot) within slotted) matched
  cases shown : i.suppressed with
  | false => exact .shown shown slot matched
  | true => exact .hidden shown slot matched

theorem derives_of_occurs {i : Item Grammar.Term} (spreads : Spreads (once ctx i))
    (derived : Derived g source ctx.inTrivia (.once i) (once ctx i)) {count : Nat} {c d : Cursor}
    {children : List Child} (within : c.In source)
    (occurs : Occurs (once ctx i) count c children d) :
    Derives g source ctx.inTrivia (.repeats i count) children := by
  induction occurs with
  | zero => exact .zero
  | succ first _ ih => exact .succ (derived within first) (ih (in_of_spreads spreads within first))

theorem derived_item {i : Item Grammar.Term} (spreads : Spreads (once ctx i))
    (derived : Derived g source ctx.inTrivia (.once i) (once ctx i)) :
    Derived g source ctx.inTrivia (.item i) (item ctx i) := by
  intro c d children within given
  obtain ⟨count, least, most, occurs⟩ := exists_of_item given
  exact .item least most (derives_of_occurs spreads derived within occurs)

theorem derived_items {is : List (Item Grammar.Term)} (spreads : ∀ i ∈ is, Spreads (item ctx i))
    (derived : ∀ i ∈ is, Derived g source ctx.inTrivia (.item i) (item ctx i)) :
    Derived g source ctx.inTrivia (.items is) (items ctx is) := by
  induction is with
  | nil =>
    intro c d children within given
    obtain ⟨rfl, rfl⟩ := gives_nil.1 given
    exact .nil
  | cons i is ih =>
    intro c d children within given
    obtain ⟨spreads, behind⟩ := List.forall_mem_cons.1 spreads
    obtain ⟨first, others⟩ := List.forall_mem_cons.1 derived
    obtain ⟨front, e, back, one, rest, rfl⟩ := gives_cons.1 given
    exact .cons (first within one) (ih behind others (in_of_spreads spreads within one) rest)

include own spread calls in
theorem derived_production {p : Production Grammar.Term}
    (derived : ∀ i ∈ p.items,
      Derived g source ctx.inTrivia (.term i.label i.term) (term ctx i.label i.term)) :
    Derived g source ctx.inTrivia (.production p) (production ctx p) := by
  intro c d children within given
  obtain ⟨front, e, back, body, slotted, rfl⟩ := gives_production.1 given
  have once : ∀ i, Spreads (once ctx i) := fun i =>
    spreads_once spread (spreads_term spread i.term i.label)
  have items : ∀ i ∈ p.items, Spreads (item ctx i) := fun i _ => spreads_item spread i
  have all : Derived g source ctx.inTrivia (.items p.items) (Matching.items ctx p.items) :=
    derived_items items fun i member =>
      derived_item (once i) (derived_once own spread calls (derived i member))
  exact .production (all within body)
    (derived_slot own calls p.trailing (in_of_spreads (spreads_items items) within body) slotted)

include own spread calls in
theorem derived_term (t : Grammar.Term) :
    ∀ label, Derived g source ctx.inTrivia (.term label t) (term ctx label t) := by
  induction t using Term.inductionOn with
  | rule id => exact fun label => derived_node calls label id
  | literal text => exact fun label => derived_literal label text
  | pattern p => exact fun label => derived_pattern label p
  | group ps ih =>
    intro label c d children within given
    obtain ⟨p, first, given⟩ := exists_first given
    have inner : Derived g source ctx.inTrivia (.production p) (production ctx p) :=
      derived_production own spread calls fun i inside => ih p first.mem i inside i.label
    exact .group first.mem (inner within given)

end Derived

/-- What rules find are derivations, whatever the grammar. -/
theorem callDerived_rule (g : Grammar) (source : String) (depth : Nat) :
    CallDerived g source (rule g depth) := by
  induction depth with
  | zero =>
    intro id inTrivia stack c d tree _ given
    exact absurd given not_gives_rule_zero
  | succ depth ih =>
    intro id inTrivia stack c d tree within given
    obtain ⟨r, p, children, found, first, matched, rfl⟩ := exists_of_rule given
    refine ⟨rfl, r, p, found, first.mem, ?_⟩
    exact derived_production rfl (callSpreads_rule g depth) ih
      (fun i _ => derived_term rfl (callSpreads_rule g depth) ih i.term i.label) within matched

end Matching

/-! ## Parsed trees -/

theorem Matching.derives_of_parse {g : Grammar} {rule source : String} {tree : Tree}
    (parsed : g.parse rule source = .ok tree) :
    g.ruleId? rule = some tree.rule ∧ Derivation g source false tree := by
  obtain ⟨id, d, known, _, given⟩ := exists_of_parse parsed
  obtain ⟨rfl, whole⟩ := callDerived_rule g source _ (Cursor.in_start source) given
  exact ⟨known, whole⟩

/-- The tree that a text is parsed into is a derivation of its rule, and so is every
tree inside it. -/
theorem derivation_of_parse {g : Grammar} {rule source : String} {tree : Tree}
    (parsed : g.parse rule source = .ok tree) :
    g.ruleId? rule = some tree.rule ∧ Derivation g source false tree ∧
      ∀ t ∈ tree.trees, ∃ inTrivia, Derivation g source inTrivia t := by
  obtain ⟨known, whole⟩ := Matching.derives_of_parse parsed
  exact ⟨known, whole, whole.derivation_of_mem⟩

theorem derivation_of_parse_pair :
    (pair true).parse "pair" "é , b" = .ok commaOut ∧
      Derivation (pair true) "é , b" false commaOut := by
  have parsed : (pair true).parse "pair" "é , b" = .ok commaOut := by with_unfolding_all rfl
  exact ⟨parsed, (derivation_of_parse parsed).2.1⟩

end Reprint
