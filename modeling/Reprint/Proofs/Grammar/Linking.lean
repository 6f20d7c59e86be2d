import Reprint.Grammar.Blueprint
import Reprint.Proofs.Grammar
import Reprint.Proofs.Outcome

/-!
# Checked grammars

A grammar that was built from a blueprint has a production for each rule and each group,
and what it refers to are rules of its table (`linked_of_build`).
-/

namespace Reprint

/-- A term refers to a rule of a table of this length, and is no empty group. -/
def Term.Linked (count : Nat) : Grammar.Term → Prop
  | .rule id => id < count
  | .group ps => ps ≠ []
  | .literal _ | .pattern _ => True

/-- All terms of a production are linked. -/
def Production.Linked (count : Nat) (p : Production Grammar.Term) : Prop :=
  ∀ i ∈ p.items, i.term.Linked count

/-- What is referred to in a grammar are rules of its table, and no rule and no group is
empty. -/
structure Grammar.Linked (g : Grammar) : Prop where
  trivia : ∀ id ∈ g.trivia, id < g.rules.length
  nonempty : ∀ r ∈ g.rules, r.productions ≠ []
  throughout : ∀ r ∈ g.rules, Throughout (Production.Linked g.rules.length) r.productions

namespace Blueprint

variable {names : List String} {rule : String}

theorem getElem?_of_idxOf? {name : String} {id : Nat} (found : names.idxOf? name = some id) :
    names[id]? = some name := by
  obtain ⟨inside, same, -⟩ := List.idxOf?_eq_some_iff.1 found
  rw [List.getElem?_eq_getElem inside, same]

theorem exists_of_linkItems {is : List (Item Blueprint.Term)} {js : List (Item Grammar.Term)}
    (linked : linkItems names rule is = .ok js) :
    ∀ j ∈ js, ∃ i ∈ is, linkTerm names rule i.term = .ok j.term := by
  induction is generalizing js with
  | nil =>
    obtain rfl := Except.ok.inj linked
    exact List.forall_mem_nil _
  | cons i is ih =>
    rw [linkItems] at linked
    obtain ⟨j, first, linked⟩ := exists_of_bind_eq_ok linked
    obtain ⟨rest, others, linked⟩ := exists_of_bind_eq_ok linked
    obtain rfl := Except.ok.inj linked
    refine List.forall_mem_cons.2 ⟨⟨i, List.mem_cons_self, ?_⟩, ?_⟩
    · rw [linkItem] at first
      obtain ⟨u, term, first⟩ := exists_of_bind_eq_ok first
      obtain rfl := Except.ok.inj first
      exact term
    · intro k member
      obtain ⟨i', inside, same⟩ := ih others k member
      exact ⟨i', List.mem_cons_of_mem _ inside, same⟩

theorem exists_of_linkProductions {ps : List (Production Blueprint.Term)}
    {qs : List (Production Grammar.Term)} (linked : linkProductions names rule ps = .ok qs) :
    ∀ q ∈ qs, ∃ p ∈ ps, linkItems names rule p.items = .ok q.items := by
  induction ps generalizing qs with
  | nil =>
    obtain rfl := Except.ok.inj linked
    exact List.forall_mem_nil _
  | cons p ps ih =>
    rw [linkProductions] at linked
    obtain ⟨q, first, linked⟩ := exists_of_bind_eq_ok linked
    obtain ⟨rest, others, linked⟩ := exists_of_bind_eq_ok linked
    obtain rfl := Except.ok.inj linked
    refine List.forall_mem_cons.2 ⟨⟨p, List.mem_cons_self, ?_⟩, ?_⟩
    · rw [linkProduction] at first
      obtain ⟨js, items, first⟩ := exists_of_bind_eq_ok first
      obtain rfl := Except.ok.inj first
      exact items
    · intro q' member
      obtain ⟨p', inside, same⟩ := ih others q' member
      exact ⟨p', List.mem_cons_of_mem _ inside, same⟩

theorem ne_nil_of_linkProductions {ps : List (Production Blueprint.Term)}
    {qs : List (Production Grammar.Term)} (nonempty : ps ≠ [])
    (linked : linkProductions names rule ps = .ok qs) : qs ≠ [] := by
  obtain ⟨p, ps, rfl⟩ := List.exists_cons_of_ne_nil nonempty
  rw [linkProductions] at linked
  obtain ⟨q, _, linked⟩ := exists_of_bind_eq_ok linked
  obtain ⟨rest, _, linked⟩ := exists_of_bind_eq_ok linked
  obtain rfl := Except.ok.inj linked
  exact List.cons_ne_nil q rest

/-- What holds of linked terms and throughout their groups holds throughout linked productions. -/
theorem throughout_of_linkProductions {P : Grammar.Term → Prop} {ps : List (Production Blueprint.Term)}
    {qs : List (Production Grammar.Term)} (linked : linkProductions names rule ps = .ok qs)
    (terms : ∀ p ∈ ps, ∀ i ∈ p.items, ∀ u, linkTerm names rule i.term = .ok u →
      P u ∧ Throughout (fun q => ∀ j ∈ q.items, P j.term) u.productions) :
    Throughout (fun q => ∀ j ∈ q.items, P j.term) qs := by
  intro q inside
  obtain ⟨own, member, deeper⟩ := mem_nested.1 inside
  obtain ⟨p, known, items⟩ := exists_of_linkProductions linked own member
  have each : ∀ j ∈ own.items,
      P j.term ∧ Throughout (fun q => ∀ j ∈ q.items, P j.term) j.term.productions := by
    intro j inside
    obtain ⟨i, origin, term⟩ := exists_of_linkItems items j inside
    exact terms p known i origin j.term term
  rcases deeper with rfl | ⟨j, inside, deeper⟩
  · exact fun j inside => (each j inside).1
  · exact (each j inside).2 q deeper

theorem exists_of_linkTerm_rule {name : String} {u : Grammar.Term}
    (linked : linkTerm names rule (.rule name) = .ok u) :
    ∃ id, names[id]? = some name ∧ u = .rule id := by
  rw [linkTerm] at linked
  split at linked
  · next id found => exact ⟨id, getElem?_of_idxOf? found, (Except.ok.inj linked).symm⟩
  · cases linked

theorem exists_of_linkTerm_pattern {source : String} {u : Grammar.Term}
    (linked : linkTerm names rule (.pattern source) = .ok u) :
    ∃ p, Pattern.compile? source = some p ∧ u = .pattern p := by
  rw [linkTerm] at linked
  split at linked
  · next p compiled => exact ⟨p, compiled, (Except.ok.inj linked).symm⟩
  · cases linked

/-- A group that was linked is not empty, and its productions were linked. -/
theorem exists_of_linkTerm_group {ps : List (Production Blueprint.Term)} {u : Grammar.Term}
    (linked : linkTerm names rule (.group ps) = .ok u) :
    ps ≠ [] ∧ ∃ qs, linkProductions names rule ps = .ok qs ∧ u = .group qs := by
  cases ps with
  | nil => cases linked
  | cons p ps =>
    rw [linkTerm] at linked
    obtain ⟨q, first, linked⟩ := exists_of_bind_eq_ok linked
    obtain ⟨rest, others, linked⟩ := exists_of_bind_eq_ok linked
    obtain rfl := Except.ok.inj linked
    refine ⟨List.cons_ne_nil p ps, q :: rest, ?_, rfl⟩
    rw [linkProductions, first, others]
    rfl

theorem linked_of_linkTerm (t : Blueprint.Term) : ∀ u, linkTerm names rule t = .ok u →
    u.Linked names.length ∧ Throughout (Production.Linked names.length) u.productions := by
  induction t using Term.inductionOn with
  | rule name =>
    intro u linked
    obtain ⟨id, known, rfl⟩ := exists_of_linkTerm_rule linked
    obtain ⟨inside, -⟩ := List.getElem?_eq_some_iff.1 known
    exact ⟨inside, List.forall_mem_nil _⟩
  | literal text =>
    intro u linked
    obtain rfl := Except.ok.inj linked
    exact ⟨trivial, List.forall_mem_nil _⟩
  | pattern source =>
    intro u linked
    obtain ⟨p, -, rfl⟩ := exists_of_linkTerm_pattern linked
    exact ⟨trivial, List.forall_mem_nil _⟩
  | group ps ih =>
    intro u linked
    obtain ⟨nonempty, qs, productions, rfl⟩ := exists_of_linkTerm_group linked
    exact ⟨ne_nil_of_linkProductions nonempty productions, throughout_of_linkProductions productions ih⟩

theorem exists_of_linkTrivia {set : Option String} {found : Option Nat}
    (linked : linkTrivia names set = .ok found) :
    set = none ∧ found = none ∨
      ∃ name id, set = some name ∧ found = some id ∧ names[id]? = some name := by
  unfold linkTrivia at linked
  split at linked
  · exact .inl ⟨rfl, (Except.ok.inj linked).symm⟩
  · next name =>
    split at linked
    · next id known => exact .inr ⟨name, id, rfl, (Except.ok.inj linked).symm, getElem?_of_idxOf? known⟩
    · cases linked

theorem exists_of_linkRule {r : Rule Blueprint.Term} {s : Rule Grammar.Term}
    (linked : linkRule names r = .ok s) :
    r.productions ≠ [] ∧ s.name = r.name ∧ linkProductions names r.name r.productions = .ok s.productions := by
  unfold linkRule at linked
  split_ifs at linked with empty
  obtain ⟨qs, productions, linked⟩ := exists_of_bind_eq_ok linked
  obtain rfl := Except.ok.inj linked
  exact ⟨fun none => empty (List.isEmpty_iff.2 none), rfl, productions⟩

end Blueprint

open Blueprint in
/-- A grammar that was built is linked. -/
theorem linked_of_build {b : Blueprint} {g : Grammar} (built : b.build = .ok g) : g.Linked := by
  unfold build at built
  split at built
  · cases built
  · obtain ⟨trivia, found, built⟩ := exists_of_bind_eq_ok built
    obtain ⟨rules, linked, built⟩ := exists_of_bind_eq_ok built
    obtain rfl := Except.ok.inj built
    obtain ⟨length, each⟩ := exists_of_mapM_eq_ok linked
    have count : b.names.length = rules.length := by rw [names, List.length_map, length]
    refine ⟨?_, ?_, ?_⟩
    · intro id set
      obtain ⟨-, absent⟩ | ⟨name, place, -, present, known⟩ := exists_of_linkTrivia found
      · exact absurd (absent.symm.trans set) nofun
      · obtain rfl := Option.some.inj (present.symm.trans set)
        obtain ⟨inside, -⟩ := List.getElem?_eq_some_iff.1 known
        exact count ▸ inside
    · intro r member
      obtain ⟨r₀, -, given⟩ := each r member
      obtain ⟨nonempty, -, productions⟩ := exists_of_linkRule given
      exact ne_nil_of_linkProductions nonempty productions
    · intro r member
      obtain ⟨r₀, -, given⟩ := each r member
      obtain ⟨-, -, productions⟩ := exists_of_linkRule given
      show Throughout (Production.Linked rules.length) r.productions
      rw [← count]
      exact throughout_of_linkProductions productions fun p _ i _ => linked_of_linkTerm i.term

end Reprint
