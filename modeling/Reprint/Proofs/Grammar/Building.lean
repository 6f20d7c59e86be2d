import Mathlib.Data.List.Duplicate
import Reprint.Proofs.Grammar.Linking

/-!
# Building a grammar

A blueprint is well formed if no two of its rules have the same name, the trivia rule is
one of them, no rule and no group is empty, and every term can be linked, at every depth.
A grammar is built from it if and only if it is; otherwise the fault that is reported is one
that the blueprint has (`build_iff_wellFormed`).

Nothing of a blueprint is lost in the grammar: with names for places and sources for
patterns again, it is the blueprint (`Grammar.written`).
-/

namespace Reprint

/-! ## Terms over other names and patterns -/

section Map

variable {ρ ρ' π π' : Type} (f : ρ → ρ') (h : π → π')

mutual

/-- A term with other references to rules and other patterns. -/
def Term.map : Term ρ π → Term ρ' π'
  | .rule r => .rule (f r)
  | .literal text => .literal text
  | .pattern p => .pattern (h p)
  | .group ps => .group (mapProductions ps)
termination_by structural t => t

def mapProduction : Production (Term ρ π) → Production (Term ρ' π')
  | ⟨items, trailing⟩ => ⟨mapItems items, trailing⟩
termination_by structural p => p

def mapProductions : List (Production (Term ρ π)) → List (Production (Term ρ' π'))
  | [] => []
  | p :: ps => mapProduction p :: mapProductions ps
termination_by structural ps => ps

def mapItem : Item (Term ρ π) → Item (Term ρ' π')
  | ⟨slot, label, t, quantifier, suppressed⟩ => ⟨slot, label, t.map, quantifier, suppressed⟩
termination_by structural i => i

def mapItems : List (Item (Term ρ π)) → List (Item (Term ρ' π'))
  | [] => []
  | i :: is => mapItem i :: mapItems is
termination_by structural is => is

end

def Rule.map (r : Rule (Term ρ π)) : Rule (Term ρ' π') := ⟨r.name, mapProductions f h r.productions⟩

end Map

/-- What a grammar was written down as: names for places and sources for patterns. -/
def Grammar.written (g : Grammar) : Blueprint where
  rules := g.rules.map (Rule.map g.ruleName Pattern.source)
  trivia := g.trivia.map g.ruleName

/-! ## What can be built -/

/-- A term can be linked, apart from what stands in its groups. -/
def Term.Linkable (names : List String) : Blueprint.Term → Prop
  | .rule name => name ∈ names
  | .literal _ => True
  | .pattern source => (Pattern.compile? source).isSome
  | .group ps => ps ≠ []

/-- All items of a production can be linked. -/
def Production.Linkable (names : List String) (p : Production Blueprint.Term) : Prop :=
  ∀ i ∈ p.items, i.term.Linkable names

/-- A blueprint of a grammar. -/
structure Blueprint.WellFormed (b : Blueprint) : Prop where
  distinct : b.names.Nodup
  trivia : ∀ name ∈ b.trivia, name ∈ b.names
  nonempty : ∀ r ∈ b.rules, r.productions ≠ []
  linkable : ∀ r ∈ b.rules, Throughout (Production.Linkable b.names) r.productions

/-- A term stands in a rule, at some depth. -/
def Rule.Mentions {ρ π : Type} (r : Rule (Term ρ π)) (t : Term ρ π) : Prop :=
  ∃ p ∈ nested r.productions, ∃ i ∈ p.items, i.term = t

/-- A term is a part of another one: the term itself, or in one of its groups. -/
def Term.Contains {ρ π : Type} (t part : Term ρ π) : Prop :=
  part = t ∨ ∃ p ∈ nested t.productions, ∃ i ∈ p.items, i.term = part

/-- A term of the rule `rule` cannot be linked, for a reason that does not lie in its groups. -/
def Term.Refused (names : List String) (rule : String) : Blueprint.Term → Blueprint.Fault → Prop
  | .rule name, f => name ∉ names ∧ f = .unknownRule rule name
  | .literal _, _ => False
  | .pattern source, f => Pattern.compile? source = none ∧ f = .invalidPattern rule source
  | .group ps, f => ps = [] ∧ f = .emptyRule rule

/-- A fault that a blueprint has. -/
def Blueprint.Has (b : Blueprint) : Blueprint.Fault → Prop
  | .duplicateRule name => List.Duplicate name b.names
  | .unknownTrivia name => b.trivia = some name ∧ name ∉ b.names
  | .emptyRule name => ∃ r ∈ b.rules, r.name = name ∧ (r.productions = [] ∨ r.Mentions (.group []))
  | .unknownRule rule reference =>
    reference ∉ b.names ∧ ∃ r ∈ b.rules, r.name = rule ∧ r.Mentions (.rule reference)
  | .invalidPattern rule source =>
    Pattern.compile? source = none ∧ ∃ r ∈ b.rules, r.name = rule ∧ r.Mentions (.pattern source)

/-- A pattern is what its source stands for. -/
def Term.Compiled : Grammar.Term → Prop
  | .pattern p => Pattern.compile? p.source = some p
  | .rule _ | .literal _ | .group _ => True

/-- What is known of a grammar that was built from a blueprint. -/
structure Blueprint.Describes (b : Blueprint) (g : Grammar) : Prop where
  /-- The rules, their productions and the trivia rule are those of the blueprint. -/
  written : g.written = b
  /-- References lead to rules of the table, and no rule and no group is empty. -/
  linked : g.Linked
  compiled : ∀ r ∈ g.rules, Throughout (fun p => ∀ i ∈ p.items, i.term.Compiled) r.productions
  /-- Names and places of rules belong together, one by one. -/
  places : ∀ id name, g.ruleId? name = some id ↔ (g.rules[id]?).map (·.name) = some name
  /-- What is reached from a rule by references is a rule. -/
  closed : ∀ id other, id < g.rules.length → g.Reaches id other → other < g.rules.length
  /-- One rule at most is marked: the one whose name was set. -/
  marked : ∀ id, g.isTrivia id ↔
    g.trivia = some id ∧ ∃ name, b.trivia = some name ∧ (g.rules[id]?).map (·.name) = some name

namespace Blueprint

variable {names : List String} {rule : String}

/-! ## Linking and back -/

/-- The name at a place of a table. -/
def nameAt (names : List String) (id : Nat) : String := (names[id]?).getD ""

theorem map_of_linkItems {is : List (Item Blueprint.Term)} {js : List (Item Grammar.Term)}
    (linked : linkItems names rule is = .ok js)
    (terms : ∀ i ∈ is, ∀ u, linkTerm names rule i.term = .ok u →
      u.map (nameAt names) Pattern.source = i.term) :
    mapItems (nameAt names) Pattern.source js = is := by
  induction is generalizing js with
  | nil =>
    obtain rfl := Except.ok.inj linked
    rfl
  | cons i is ih =>
    rw [linkItems] at linked
    obtain ⟨j, first, linked⟩ := exists_of_bind_eq_ok linked
    obtain ⟨rest, others, linked⟩ := exists_of_bind_eq_ok linked
    obtain rfl := Except.ok.inj linked
    obtain ⟨own, further⟩ := List.forall_mem_cons.1 terms
    rw [linkItem] at first
    obtain ⟨u, term, first⟩ := exists_of_bind_eq_ok first
    obtain rfl := Except.ok.inj first
    rw [mapItems, mapItem, own u term, ih others further]

theorem map_of_linkProductions {ps : List (Production Blueprint.Term)}
    {qs : List (Production Grammar.Term)} (linked : linkProductions names rule ps = .ok qs)
    (terms : ∀ p ∈ ps, ∀ i ∈ p.items, ∀ u, linkTerm names rule i.term = .ok u →
      u.map (nameAt names) Pattern.source = i.term) :
    mapProductions (nameAt names) Pattern.source qs = ps := by
  induction ps generalizing qs with
  | nil =>
    obtain rfl := Except.ok.inj linked
    rfl
  | cons p ps ih =>
    rw [linkProductions] at linked
    obtain ⟨q, first, linked⟩ := exists_of_bind_eq_ok linked
    obtain ⟨rest, others, linked⟩ := exists_of_bind_eq_ok linked
    obtain rfl := Except.ok.inj linked
    obtain ⟨own, further⟩ := List.forall_mem_cons.1 terms
    rw [linkProduction] at first
    obtain ⟨js, items, first⟩ := exists_of_bind_eq_ok first
    obtain rfl := Except.ok.inj first
    rw [mapProductions, mapProduction, map_of_linkItems items own, ih others further]

/-- A pattern keeps its source. -/
theorem source_of_compile? {source : String} {p : Pattern} (compiled : Pattern.compile? source = some p) :
    p.source = source := by
  unfold Pattern.compile? at compiled
  obtain ⟨e, -, compiled⟩ := Option.bind_eq_some_iff.1 compiled
  split_ifs at compiled
  obtain rfl := Option.some.inj compiled
  rfl

theorem map_of_linkTerm (t : Blueprint.Term) :
    ∀ u, linkTerm names rule t = .ok u → u.map (nameAt names) Pattern.source = t := by
  induction t using Term.inductionOn with
  | rule name =>
    intro u linked
    obtain ⟨id, known, rfl⟩ := exists_of_linkTerm_rule linked
    rw [Term.map, nameAt, known, Option.getD_some]
  | literal text =>
    intro u linked
    obtain rfl := Except.ok.inj linked
    rfl
  | pattern source =>
    intro u linked
    obtain ⟨p, compiled, rfl⟩ := exists_of_linkTerm_pattern linked
    rw [Term.map, source_of_compile? compiled]
  | group ps ih =>
    intro u linked
    obtain ⟨-, qs, productions, rfl⟩ := exists_of_linkTerm_group linked
    rw [Term.map, map_of_linkProductions productions ih]

/-! ## Which terms can be linked -/

theorem forall_of_linkItems {is : List (Item Blueprint.Term)} {js : List (Item Grammar.Term)}
    (linked : linkItems names rule is = .ok js) : ∀ i ∈ is, ∃ u, linkTerm names rule i.term = .ok u := by
  induction is generalizing js with
  | nil => exact List.forall_mem_nil _
  | cons i is ih =>
    rw [linkItems] at linked
    obtain ⟨j, first, linked⟩ := exists_of_bind_eq_ok linked
    obtain ⟨rest, others, -⟩ := exists_of_bind_eq_ok linked
    rw [linkItem] at first
    obtain ⟨u, term, -⟩ := exists_of_bind_eq_ok first
    exact List.forall_mem_cons.2 ⟨⟨u, term⟩, ih others⟩

theorem forall_of_linkProductions {ps : List (Production Blueprint.Term)}
    {qs : List (Production Grammar.Term)} (linked : linkProductions names rule ps = .ok qs) :
    ∀ p ∈ ps, ∀ i ∈ p.items, ∃ u, linkTerm names rule i.term = .ok u := by
  induction ps generalizing qs with
  | nil => exact List.forall_mem_nil _
  | cons p ps ih =>
    rw [linkProductions] at linked
    obtain ⟨q, first, linked⟩ := exists_of_bind_eq_ok linked
    obtain ⟨rest, others, -⟩ := exists_of_bind_eq_ok linked
    rw [linkProduction] at first
    obtain ⟨js, items, -⟩ := exists_of_bind_eq_ok first
    exact List.forall_mem_cons.2 ⟨forall_of_linkItems items, ih others⟩

/-- Productions can be linked throughout if the terms of their items can. -/
theorem throughout_linkable {ps : List (Production Blueprint.Term)}
    (terms : ∀ p ∈ ps, ∀ i ∈ p.items,
      i.term.Linkable names ∧ Throughout (Production.Linkable names) i.term.productions) :
    Throughout (Production.Linkable names) ps := by
  intro q inside
  obtain ⟨p, member, rfl | ⟨i, within, deeper⟩⟩ := mem_nested.1 inside
  · exact fun i within => (terms q member i within).1
  · exact (terms p member i within).2 q deeper

theorem linkable_of_linkTerm (t : Blueprint.Term) : ∀ u, linkTerm names rule t = .ok u →
    t.Linkable names ∧ Throughout (Production.Linkable names) t.productions := by
  induction t using Term.inductionOn with
  | rule name =>
    intro u linked
    obtain ⟨id, known, -⟩ := exists_of_linkTerm_rule linked
    exact ⟨List.mem_of_getElem? known, List.forall_mem_nil _⟩
  | literal text => exact fun _ _ => ⟨trivial, List.forall_mem_nil _⟩
  | pattern source =>
    intro u linked
    obtain ⟨p, compiled, -⟩ := exists_of_linkTerm_pattern linked
    exact ⟨Option.isSome_iff_exists.2 ⟨p, compiled⟩, List.forall_mem_nil _⟩
  | group ps ih =>
    intro u linked
    obtain ⟨nonempty, qs, productions, -⟩ := exists_of_linkTerm_group linked
    refine ⟨nonempty, throughout_linkable fun p member i within => ?_⟩
    obtain ⟨v, term⟩ := forall_of_linkProductions productions p member i within
    exact ih p member i within v term

/-! ## Which terms cannot be linked -/

theorem exists_of_linkItems_error {is : List (Item Blueprint.Term)} {f : Fault}
    (failed : linkItems names rule is = .error f) : ∃ i ∈ is, linkTerm names rule i.term = .error f := by
  induction is with
  | nil => cases failed
  | cons i is ih =>
    rw [linkItems] at failed
    obtain first | ⟨j, -, failed⟩ := of_bind_eq_error failed
    · rw [linkItem] at first
      obtain term | ⟨u, -, first⟩ := of_bind_eq_error first
      · exact ⟨i, List.mem_cons_self, term⟩
      · cases first
    · obtain others | ⟨rest, -, failed⟩ := of_bind_eq_error failed
      · obtain ⟨k, member, term⟩ := ih others
        exact ⟨k, List.mem_cons_of_mem _ member, term⟩
      · cases failed

theorem exists_of_linkProductions_error {ps : List (Production Blueprint.Term)} {f : Fault}
    (failed : linkProductions names rule ps = .error f) :
    ∃ p ∈ ps, ∃ i ∈ p.items, linkTerm names rule i.term = .error f := by
  induction ps with
  | nil => cases failed
  | cons p ps ih =>
    rw [linkProductions] at failed
    obtain first | ⟨q, -, failed⟩ := of_bind_eq_error failed
    · rw [linkProduction] at first
      obtain items | ⟨js, -, first⟩ := of_bind_eq_error first
      · exact ⟨p, List.mem_cons_self, exists_of_linkItems_error items⟩
      · cases first
    · obtain others | ⟨rest, -, failed⟩ := of_bind_eq_error failed
      · obtain ⟨p', member, inside⟩ := ih others
        exact ⟨p', List.mem_cons_of_mem _ member, inside⟩
      · cases failed

/-- What is refused in an item of some productions is mentioned in them, at some depth. -/
theorem mentioned_of_contains {ps : List (Production Blueprint.Term)} {p : Production Blueprint.Term}
    (member : p ∈ ps) {i : Item Blueprint.Term} (inside : i ∈ p.items) {part : Blueprint.Term}
    (contains : i.term.Contains part) : ∃ q ∈ nested ps, ∃ j ∈ q.items, j.term = part := by
  obtain rfl | ⟨q, deeper, within⟩ := contains
  · exact ⟨p, mem_nested.2 ⟨p, member, .inl rfl⟩, i, inside, rfl⟩
  · exact ⟨q, mem_nested.2 ⟨p, member, .inr ⟨i, inside, deeper⟩⟩, within⟩

/-- A term that is not linked contains one that cannot be. -/
theorem refused_of_linkTerm (t : Blueprint.Term) : ∀ f, linkTerm names rule t = .error f →
    ∃ part, t.Contains part ∧ part.Refused names rule f := by
  induction t using Term.inductionOn with
  | rule name =>
    intro f failed
    rw [linkTerm] at failed
    split at failed
    · cases failed
    · next unknown =>
      obtain rfl := Except.error.inj failed
      exact ⟨_, .inl rfl, List.idxOf?_eq_none_iff.1 unknown, rfl⟩
  | literal text =>
    intro f failed
    cases failed
  | pattern source =>
    intro f failed
    rw [linkTerm] at failed
    split at failed
    · cases failed
    · next invalid =>
      obtain rfl := Except.error.inj failed
      exact ⟨_, .inl rfl, invalid, rfl⟩
  | group ps ih =>
    intro f failed
    cases ps with
    | nil =>
      obtain rfl := Except.error.inj failed
      exact ⟨_, .inl rfl, rfl, rfl⟩
    | cons p ps =>
      have productions : linkProductions names rule (p :: ps) = .error f := by
        rw [linkTerm] at failed
        rw [linkProductions]
        obtain first | ⟨q, first, failed⟩ := of_bind_eq_error failed
        · rw [first]
          rfl
        · obtain others | ⟨rest, -, failed⟩ := of_bind_eq_error failed
          · rw [first, others]
            rfl
          · cases failed
      obtain ⟨p', member, i, inside, term⟩ := exists_of_linkProductions_error productions
      obtain ⟨part, contains, refused⟩ := ih p' member i inside f term
      exact ⟨part, .inr (mentioned_of_contains member inside contains), refused⟩

theorem refused_of_linkRule {r : Rule Blueprint.Term} {f : Fault} (failed : linkRule names r = .error f) :
    r.productions = [] ∧ f = .emptyRule r.name ∨ ∃ part, r.Mentions part ∧ part.Refused names r.name f := by
  unfold linkRule at failed
  split_ifs at failed with empty
  · exact .inl ⟨List.isEmpty_iff.1 empty, (Except.error.inj failed).symm⟩
  · obtain productions | ⟨qs, -, failed⟩ := of_bind_eq_error failed
    · obtain ⟨p, member, i, inside, term⟩ := exists_of_linkProductions_error productions
      obtain ⟨part, contains, refused⟩ := refused_of_linkTerm i.term f term
      exact .inr ⟨part, mentioned_of_contains member inside contains, refused⟩
    · cases failed

/-! ## Faults -/

theorem firstRepeated?_eq_some {seen : List String} {name : String}
    (found : firstRepeated? seen names = some name) : name ∈ seen ∧ name ∈ names ∨ List.Duplicate name names := by
  induction names generalizing seen with
  | nil => cases found
  | cons first names ih =>
    rw [firstRepeated?] at found
    split_ifs at found with known
    · obtain rfl := Option.some.inj found
      exact .inl ⟨List.contains_iff_mem.1 known, List.mem_cons_self⟩
    · obtain ⟨before, member⟩ | twice := ih found
      · obtain rfl | before := List.mem_cons.1 before
        · exact .inr (.cons_mem member)
        · exact .inl ⟨before, List.mem_cons_of_mem _ member⟩
      · exact .inr (.cons_duplicate twice)

theorem firstRepeated?_eq_none {seen : List String} (none : firstRepeated? seen names = none) :
    names.Nodup ∧ ∀ name ∈ names, name ∉ seen := by
  induction names generalizing seen with
  | nil => exact ⟨.nil, List.forall_mem_nil _⟩
  | cons first names ih =>
    rw [firstRepeated?] at none
    split_ifs at none with known
    obtain ⟨distinct, unseen⟩ := ih none
    refine ⟨List.nodup_cons.2 ⟨fun member => ?_, distinct⟩, List.forall_mem_cons.2 ⟨?_, ?_⟩⟩
    · exact unseen first member List.mem_cons_self
    · exact fun member => known (List.contains_iff_mem.2 member)
    · exact fun name member before => unseen name member (List.mem_cons_of_mem _ before)

/-- A fault that is reported is one that the blueprint has. -/
theorem has_of_build {b : Blueprint} {f : Fault} (failed : b.build = .error f) : b.Has f := by
  unfold build at failed
  split at failed
  · next name repeated =>
    obtain rfl := Except.error.inj failed
    exact (firstRepeated?_eq_some repeated).resolve_left fun seen => List.not_mem_nil seen.1
  · obtain trivia | ⟨id, -, failed⟩ := of_bind_eq_error failed
    · unfold linkTrivia at trivia
      split at trivia
      · cases trivia
      · next name given =>
        split at trivia
        · cases trivia
        · next unknown =>
          obtain rfl := Except.error.inj trivia
          exact ⟨given, List.idxOf?_eq_none_iff.1 unknown⟩
    · obtain rules | ⟨rs, -, failed⟩ := of_bind_eq_error failed
      · obtain ⟨r, member, failed⟩ := exists_of_mapM_eq_error rules
        obtain ⟨empty, rfl⟩ | ⟨part, mentions, refused⟩ := refused_of_linkRule failed
        · exact ⟨r, member, rfl, .inl empty⟩
        · cases part with
          | rule name =>
            obtain ⟨unknown, rfl⟩ := refused
            exact ⟨unknown, r, member, rfl, mentions⟩
          | literal text => exact refused.elim
          | pattern source =>
            obtain ⟨invalid, rfl⟩ := refused
            exact ⟨invalid, r, member, rfl, mentions⟩
          | group ps =>
            obtain ⟨rfl, rfl⟩ := refused
            exact ⟨r, member, rfl, .inr mentions⟩
      · cases failed

theorem WellFormed.linkable_of_mentions {b : Blueprint} (wellFormed : b.WellFormed)
    {r : Rule Blueprint.Term} (member : r ∈ b.rules) {t : Blueprint.Term} (mentions : r.Mentions t) :
    t.Linkable b.names := by
  obtain ⟨p, deeper, i, inside, rfl⟩ := mentions
  exact wellFormed.linkable r member p deeper i inside

/-- A blueprint with a fault is not well formed. -/
theorem not_wellFormed_of_has {b : Blueprint} {f : Fault} (has : b.Has f) : ¬ b.WellFormed := by
  intro wellFormed
  cases f with
  | duplicateRule name => exact has.not_nodup wellFormed.distinct
  | unknownTrivia name => exact has.2 (wellFormed.trivia name has.1)
  | emptyRule name =>
    obtain ⟨r, member, -, empty | mentions⟩ := has
    · exact wellFormed.nonempty r member empty
    · exact wellFormed.linkable_of_mentions member mentions rfl
  | unknownRule rule reference =>
    obtain ⟨unknown, r, member, -, mentions⟩ := has
    exact unknown (wellFormed.linkable_of_mentions member mentions)
  | invalidPattern rule source =>
    obtain ⟨invalid, r, member, -, mentions⟩ := has
    have compiled : (Pattern.compile? source).isSome := wellFormed.linkable_of_mentions member mentions
    rw [invalid] at compiled
    cases compiled

/-! ## Grammars -/

/-- What is known of a grammar that was built. -/
structure Builds (b : Blueprint) (g : Grammar) : Prop where
  distinct : b.names.Nodup
  trivia : linkTrivia b.names b.trivia = .ok g.trivia
  rules : List.Forall₂ (fun r s => linkRule b.names r = .ok s) b.rules g.rules

theorem builds_of_build {b : Blueprint} {g : Grammar} (built : b.build = .ok g) : b.Builds g := by
  unfold build at built
  split at built
  · cases built
  · next unrepeated =>
    obtain ⟨trivia, found, built⟩ := exists_of_bind_eq_ok built
    obtain ⟨rules, linked, built⟩ := exists_of_bind_eq_ok built
    obtain rfl := Except.ok.inj built
    exact ⟨(firstRepeated?_eq_none unrepeated).1, found, forall₂_of_mapM_eq_ok linked⟩

theorem wellFormed_of_build {b : Blueprint} {g : Grammar} (built : b.build = .ok g) : b.WellFormed := by
  obtain ⟨distinct, trivia, rules⟩ := builds_of_build built
  obtain ⟨each, -⟩ := exists_of_forall₂ rules
  refine ⟨distinct, ?_, ?_, ?_⟩
  · intro name given
    obtain ⟨unset, -⟩ | ⟨_, id, set, -, known⟩ := exists_of_linkTrivia trivia
    · rw [Option.mem_def.1 given] at unset
      cases unset
    · obtain rfl := Option.some.inj ((Option.mem_def.1 given).symm.trans set)
      exact List.mem_of_getElem? known
  · intro r member
    obtain ⟨s, -, linked⟩ := each r member
    exact (exists_of_linkRule linked).1
  · intro r member
    obtain ⟨s, -, linked⟩ := each r member
    obtain ⟨-, -, productions⟩ := exists_of_linkRule linked
    refine throughout_linkable fun p inside i within => ?_
    obtain ⟨u, term⟩ := forall_of_linkProductions productions p inside i within
    exact linkable_of_linkTerm i.term u term

namespace Builds

variable {b : Blueprint} {g : Grammar}

/-- The rules of a grammar have the names of the blueprint, in the same order. -/
theorem map_name (builds : b.Builds g) : g.rules.map (·.name) = b.names :=
  (map_eq_map_of_forall₂ builds.rules fun _ _ linked => (exists_of_linkRule linked).2.1.symm).symm

theorem getElem?_name (builds : b.Builds g) (id : Nat) : (g.rules[id]?).map (·.name) = b.names[id]? := by
  rw [← builds.map_name, List.getElem?_map]

theorem ruleName_eq (builds : b.Builds g) : g.ruleName = nameAt b.names := by
  funext id
  rw [Grammar.ruleName, builds.getElem?_name, nameAt]

/-- A name has one place. -/
theorem eq_of_getElem? (builds : b.Builds g) {id other : Nat} {name : String}
    (first : (g.rules[id]?).map (·.name) = some name) (second : (g.rules[other]?).map (·.name) = some name) :
    id = other := by
  rw [builds.getElem?_name] at first second
  obtain ⟨inside, -⟩ := List.getElem?_eq_some_iff.1 first
  exact (List.getElem?_inj inside builds.distinct).1 (first.trans second.symm)

/-- Places of rules and names belong together. -/
theorem ruleId?_eq_some_iff (builds : b.Builds g) {id : Nat} {name : String} :
    g.ruleId? name = some id ↔ (g.rules[id]?).map (·.name) = some name := by
  rw [Grammar.ruleId?, List.findIdx?_eq_some_iff_getElem]
  constructor
  · rintro ⟨inside, same, -⟩
    rw [List.getElem?_eq_getElem inside, Option.map_some, beq_iff_eq.1 same]
  · intro named
    obtain ⟨r, found, rfl⟩ := Option.map_eq_some_iff.1 named
    obtain ⟨inside, rfl⟩ := List.getElem?_eq_some_iff.1 found
    refine ⟨inside, beq_self_eq_true _, fun j before same => ?_⟩
    have again : (g.rules[j]?).map (·.name) = some g.rules[id].name := by
      rw [List.getElem?_eq_getElem (Nat.lt_trans before inside), Option.map_some, beq_iff_eq.1 same]
    exact absurd (builds.eq_of_getElem? again named) (Nat.ne_of_lt before)

/-- The trivia rule is the one with the name that was set for it. -/
theorem trivia_eq_some_iff (builds : b.Builds g) {id : Nat} :
    g.trivia = some id ↔ ∃ name, b.trivia = some name ∧ (g.rules[id]?).map (·.name) = some name := by
  obtain ⟨unset, absent⟩ | ⟨name, place, set, present, known⟩ := exists_of_linkTrivia builds.trivia
  · rw [unset, absent]
    exact ⟨nofun, nofun⟩
  · rw [← builds.getElem?_name] at known
    rw [set, present]
    constructor
    · rintro ⟨⟩
      exact ⟨name, rfl, known⟩
    · rintro ⟨_, ⟨⟩, again⟩
      rw [builds.eq_of_getElem? known again]

/-- Nothing of the blueprint is lost. -/
theorem written (builds : b.Builds g) : g.written = b := by
  have rules : g.rules.map (Rule.map g.ruleName Pattern.source) = b.rules.map id := by
    refine (map_eq_map_of_forall₂ builds.rules fun r s linked => ?_).symm
    obtain ⟨-, name, productions⟩ := exists_of_linkRule linked
    have back := map_of_linkProductions productions fun p _ i _ => map_of_linkTerm i.term
    rw [Rule.map, builds.ruleName_eq, back, name]
    rfl
  have trivia : g.trivia.map g.ruleName = b.trivia := by
    obtain ⟨unset, absent⟩ | ⟨name, place, set, present, known⟩ := exists_of_linkTrivia builds.trivia
    · rw [unset, absent]
      rfl
    · rw [set, present, Option.map_some, builds.ruleName_eq, nameAt, known, Option.getD_some]
  rw [Grammar.written, rules, trivia, List.map_id]

end Builds

end Blueprint

namespace Grammar

theorem Linked.lt_of_refers {g : Grammar} (linked : g.Linked) {id other : Nat} (refers : g.Refers id other) :
    other < g.rules.length := by
  obtain ⟨r, found, p, deeper, i, within, reference⟩ := refers
  have own := linked.throughout r (List.mem_of_getElem? found) p deeper i within
  rwa [reference] at own

theorem Linked.lt_of_reaches {g : Grammar} (linked : g.Linked) {id other : Nat} (inside : id < g.rules.length)
    (reaches : g.Reaches id other) : other < g.rules.length := by
  induction reaches with
  | refl => exact inside
  | tail _ refers _ => exact linked.lt_of_refers refers

/-- A place in the table that a grammar speaks of. -/
inductive Names (g : Grammar) : Nat → Prop
  | rule {name : String} {id : Nat} : g.ruleId? name = some id → g.Names id
  | trivia {id : Nat} : g.trivia = some id → g.Names id
  | reference {id other : Nat} : g.Refers id other → g.Names other

/-- Every place that a linked grammar speaks of is in its table. -/
theorem Linked.lt_of_names {g : Grammar} (linked : g.Linked) {id : Nat} (names : g.Names id) :
    id < g.rules.length := by
  cases names with
  | rule found =>
    obtain ⟨inside, -⟩ := List.findIdx?_eq_some_iff_getElem.1 found
    exact inside
  | trivia set => exact linked.trivia id set
  | reference refers => exact linked.lt_of_refers refers

end Grammar

namespace Blueprint

theorem compiled_of_linkTerm {names : List String} {rule : String} (t : Blueprint.Term) :
    ∀ u, linkTerm names rule t = .ok u →
      u.Compiled ∧ Throughout (fun p => ∀ i ∈ p.items, i.term.Compiled) u.productions := by
  induction t using Term.inductionOn with
  | rule name =>
    intro u linked
    obtain ⟨id, -, rfl⟩ := exists_of_linkTerm_rule linked
    exact ⟨trivial, List.forall_mem_nil _⟩
  | literal text =>
    intro u linked
    obtain rfl := Except.ok.inj linked
    exact ⟨trivial, List.forall_mem_nil _⟩
  | pattern source =>
    intro u linked
    obtain ⟨p, compiled, rfl⟩ := exists_of_linkTerm_pattern linked
    refine ⟨?_, List.forall_mem_nil _⟩
    rwa [← source_of_compile? compiled] at compiled
  | group ps ih =>
    intro u linked
    obtain ⟨-, qs, productions, rfl⟩ := exists_of_linkTerm_group linked
    exact ⟨trivial, throughout_of_linkProductions productions ih⟩

theorem describes_of_build {b : Blueprint} {g : Grammar} (built : b.build = .ok g) : b.Describes g := by
  have builds := builds_of_build built
  have linked := linked_of_build built
  refine ⟨builds.written, linked, ?_, fun _ _ => builds.ruleId?_eq_some_iff, ?_, ?_⟩
  · intro s member
    obtain ⟨r, -, given⟩ := (exists_of_forall₂ builds.rules).2 s member
    obtain ⟨-, -, productions⟩ := exists_of_linkRule given
    exact throughout_of_linkProductions productions fun p _ i _ => compiled_of_linkTerm i.term
  · exact fun id other inside => linked.lt_of_reaches inside
  · intro id
    rw [Grammar.isTrivia, beq_iff_eq]
    exact ⟨fun set => ⟨set, builds.trivia_eq_some_iff.1 set⟩, And.left⟩

/-- Places of rules are counted without a bound.  In the grammar of a blueprint with no more
rules than there are words, each place that is spoken of is the same as a word. -/
theorem toNat_toUInt32_of_names {b : Blueprint} {g : Grammar} (built : b.build = .ok g)
    (few : b.rules.length ≤ UInt32.size) {id : Nat} (names : g.Names id) : id.toUInt32.toNat = id := by
  have length : b.rules.length = g.rules.length := (builds_of_build built).rules.length_eq
  have inside := (linked_of_build built).lt_of_names names
  exact UInt32.toNat_ofNat_of_lt' (by omega)

/-- A grammar is built from a blueprint if and only if the blueprint is well formed, and
otherwise it has the fault that is reported.  What is built is the grammar it describes. -/
theorem build_iff_wellFormed (b : Blueprint) :
    ((∃ g, b.build = .ok g) ↔ b.WellFormed) ∧ (∀ f, b.build = .error f → b.Has f) ∧
      ∀ g, b.build = .ok g → b.Describes g := by
  refine ⟨⟨fun ⟨g, built⟩ => wellFormed_of_build built, fun wellFormed => ?_⟩, fun f => has_of_build,
    fun g => describes_of_build⟩
  cases outcome : b.build with
  | ok g => exact ⟨g, rfl⟩
  | error f => exact absurd wellFormed (not_wellFormed_of_has (has_of_build outcome))

/-- Numbers with signs between them, given the reference behind a sign.  Which rule stands
for blanks is said before there is one. -/
def signed (reference : String) : Blueprint :=
  (({ trivia := some "digits" } : Blueprint).setTrivia "_"
    |>.addRule ⟨"sum", [{ items := [{ term := .rule "digits" },
      { slot := .allowed
        term := .group [{ items := [{ label := some "sign", term := .literal "+" },
          { slot := .allowed, term := .rule reference }] }]
        quantifier := .many }] }]⟩
    |>.addRule ⟨"digits", [{ items := [{ term := .pattern "[0-9]+" }] }]⟩
    |>.addRule ⟨"_", [{ items := [{ term := .pattern " +" }] }]⟩)

open Pattern in
theorem wellFormed_signed : (signed "digits").WellFormed := by
  have read : Expr.read? (anchored "[0-9]+") = some (.alts [.cats [.look .start,
      .alts [.cats [(Expr.ofSet (Text.Ranges.union [] [(48, 57)])).repeated 1 none true]]]]) := by
    with_unfolding_all rfl
  have digits : (compile? "[0-9]+").isSome = true := by
    rw [compile?, read, Text.Ranges.union, List.nil_merge]
    with_unfolding_all rfl
  have blanks : (compile? " +").isSome = true := by with_unfolding_all rfl
  refine ⟨by decide, by decide, by decide, ?_⟩
  simp [signed, addRule, setTrivia, names, Throughout, nested, nestedInProduction, nestedInItems,
    nestedInItem, nestedInTerm, Production.Linkable, Term.Linkable, digits, blanks]

/-- A reference inside a group decides. -/
theorem build_iff_wellFormed_signed :
    (∃ g, (signed "digits").build = .ok g ∧ (signed "digits").Describes g ∧ g.trivia = some 2) ∧
    (signed "number").build = .error (.unknownRule "sum" "number") ∧
    (signed "number").Has (.unknownRule "sum" "number") := by
  have failed : (signed "number").build = .error (.unknownRule "sum" "number") := by rfl
  obtain ⟨g, built⟩ := (build_iff_wellFormed (signed "digits")).1.2 wellFormed_signed
  have place : Except.ok (some 2) = Except.ok g.trivia := (builds_of_build built).trivia
  exact ⟨⟨g, built, (build_iff_wellFormed _).2.2 g built, (Except.ok.inj place).symm⟩, failed,
    (build_iff_wellFormed _).2.1 _ failed⟩

end Blueprint

end Reprint
