import Mathlib.Logic.Relation
import Reprint.Grammar.Basic

/-!
# What holds throughout a grammar

Groups hold productions of their own, so a property of productions has to be
looked at at every depth.  `Throughout` does so, and `Term.inductionOn` is the
induction that goes with it: a group has the property of terms that all items in
its productions have.
-/

namespace Reprint

variable {ρ π : Type}

/-- Induction on terms. -/
@[elab_as_elim]
theorem Term.inductionOn {motive : Term ρ π → Prop} (t : Term ρ π)
    (rule : ∀ r, motive (.rule r))
    (literal : ∀ text, motive (.literal text))
    (pattern : ∀ p, motive (.pattern p))
    (group : ∀ ps : List (Production (Term ρ π)), (∀ p ∈ ps, ∀ i ∈ p.items, motive i.term) →
      motive (.group ps)) :
    motive t := by
  refine @Term.rec ρ π motive (fun ps => ∀ p ∈ ps, ∀ i ∈ p.items, motive i.term)
    (fun p => ∀ i ∈ p.items, motive i.term) (fun is => ∀ i ∈ is, motive i.term)
    (fun i => motive i.term) rule literal pattern group ?_ ?_ ?_ ?_ ?_ ?_ t
  · exact List.forall_mem_nil _
  · intro p ps first others
    exact List.forall_mem_cons.2 ⟨first, others⟩
  · intro is trailing all
    exact all
  · exact List.forall_mem_nil _
  · intro i is first others
    exact List.forall_mem_cons.2 ⟨first, others⟩
  · intro slot label t quantifier suppressed own
    exact own

/-! ## Productions at every depth -/

/-- The productions of a group; other terms have none. -/
def Term.productions : Term ρ π → List (Production (Term ρ π))
  | .group ps => ps
  | .rule _ | .literal _ | .pattern _ => []

mutual

/-- The productions in a term, at every depth. -/
def nestedInTerm : Term ρ π → List (Production (Term ρ π))
  | .group ps => nested ps
  | .rule _ | .literal _ | .pattern _ => []
termination_by structural t => t

/-- The productions of a list and those in their groups, at every depth. -/
def nested : List (Production (Term ρ π)) → List (Production (Term ρ π))
  | [] => []
  | p :: ps => p :: nestedInProduction p ++ nested ps
termination_by structural ps => ps

def nestedInProduction : Production (Term ρ π) → List (Production (Term ρ π))
  | ⟨items, _⟩ => nestedInItems items
termination_by structural p => p

def nestedInItems : List (Item (Term ρ π)) → List (Production (Term ρ π))
  | [] => []
  | i :: is => nestedInItem i ++ nestedInItems is
termination_by structural is => is

def nestedInItem : Item (Term ρ π) → List (Production (Term ρ π))
  | ⟨_, _, t, _, _⟩ => nestedInTerm t
termination_by structural i => i

end

/-- All productions have a property, at every depth. -/
def Throughout (P : Production (Term ρ π) → Prop) (ps : List (Production (Term ρ π))) : Prop :=
  ∀ p ∈ nested ps, P p

theorem nestedInTerm_eq (t : Term ρ π) : nestedInTerm t = nested t.productions := by
  cases t <;> simp [nestedInTerm, Term.productions, nested]

theorem mem_nestedInItems {is : List (Item (Term ρ π))} {p : Production (Term ρ π)} :
    p ∈ nestedInItems is ↔ ∃ i ∈ is, p ∈ nested i.term.productions := by
  induction is with
  | nil => simp [nestedInItems]
  | cons i is ih =>
    rw [nestedInItems, List.mem_append, ih]
    cases i
    simp [nestedInItem, nestedInTerm_eq]

theorem mem_nested {ps : List (Production (Term ρ π))} {q : Production (Term ρ π)} :
    q ∈ nested ps ↔ ∃ p ∈ ps, q = p ∨ ∃ i ∈ p.items, q ∈ nested i.term.productions := by
  induction ps with
  | nil => simp [nested]
  | cons p ps ih =>
    rw [nested, List.mem_append, List.mem_cons, ih]
    cases p
    simp [nestedInProduction, mem_nestedInItems]

/-- What holds throughout holds of a production and throughout the groups of its items. -/
theorem Throughout.of_mem {P : Production (Term ρ π) → Prop} {ps : List (Production (Term ρ π))}
    (throughout : Throughout P ps) {p : Production (Term ρ π)} (member : p ∈ ps) :
    P p ∧ ∀ i ∈ p.items, Throughout P i.term.productions := by
  refine ⟨throughout p (mem_nested.2 ⟨p, member, .inl rfl⟩), ?_⟩
  intro i inside q deeper
  exact throughout q (mem_nested.2 ⟨p, member, .inr ⟨i, inside, deeper⟩⟩)

theorem Throughout.tail {P : Production (Term ρ π) → Prop} {p : Production (Term ρ π)}
    {ps : List (Production (Term ρ π))} (throughout : Throughout P (p :: ps)) : Throughout P ps := by
  intro q member
  obtain ⟨own, inside, deeper⟩ := mem_nested.1 member
  exact throughout q (mem_nested.2 ⟨own, List.mem_cons_of_mem p inside, deeper⟩)

/-! ## Grammars -/

namespace Grammar

/-- No item of a grammar is suppressed. -/
def Unsuppressed (g : Grammar) : Prop :=
  ∀ r ∈ g.rules, Throughout (fun p => ∀ i ∈ p.items, i.suppressed = false) r.productions

/-- A rule refers to another one. -/
def Refers (g : Grammar) (id other : Nat) : Prop :=
  ∃ r ∈ g.rules[id]?, ∃ p ∈ nested r.productions, ∃ i ∈ p.items, i.term = .rule other

/-- A rule that is reached from another one by references. -/
abbrev Reaches (g : Grammar) : Nat → Nat → Prop := Relation.ReflTransGen g.Refers

/-- No blanks may stand in the slots of a rule. -/
def Unspaced (g : Grammar) (id : Nat) : Prop :=
  ∀ r ∈ g.rules[id]?,
    Throughout (fun p => p.trailing = .none ∧ ∀ i ∈ p.items, i.slot = .none) r.productions

theorem Unsuppressed.of_getElem? {g : Grammar} (unsuppressed : g.Unsuppressed) {id : Nat}
    {r : Rule Grammar.Term} (found : g.rules[id]? = some r) :
    Throughout (fun p => ∀ i ∈ p.items, i.suppressed = false) r.productions :=
  unsuppressed r (List.mem_of_getElem? found)

end Grammar

end Reprint
