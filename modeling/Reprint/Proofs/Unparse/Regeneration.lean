import Reprint.Proofs.Unparse.Course
import Reprint.Unparse

/-!
# Regenerating suppressed items

The text of a suppressed item has to follow from the grammar.  `Term.Regenerable` says of
which terms it does, and `Item.Lost` which items are lost in a tree: those that are
suppressed, have to occur and do not follow from the grammar.

An unparser is refused for a lost item anywhere in the grammar and, apart from conflicts in
the style, for nothing else.  If it is made, regenerating comes only to terms that follow
from the grammar, whatever tree is retraced (`regenerable_of_make`).
-/

namespace Reprint

/-! ## What follows from the grammar -/

section Regenerable

variable {ρ π : Type}

/-- The text of a term follows from the grammar: the term is a literal, or a group with a
first production in which this holds of the items that have to occur. -/
inductive Term.Regenerable : Term ρ π → Prop
  | literal (text : String) : Regenerable (.literal text)
  | group {p : Production (Term ρ π)} {ps : List (Production (Term ρ π))} :
      (∀ i ∈ p.items, 0 < i.quantifier.least → i.term.Regenerable) → Regenerable (.group (p :: ps))

theorem itemsRegenerable_iff {is : List (Item (Term ρ π))} :
    itemsRegenerable is ↔ ∀ i ∈ is, 0 < i.quantifier.least → i.term.isRegenerable := by
  induction is with
  | nil => simp [itemsRegenerable]
  | cons i is ih =>
    obtain ⟨slot, label, t, quantifier, suppressed⟩ := i
    rw [itemsRegenerable, Bool.and_eq_true, ih, List.forall_mem_cons, itemRegenerable]
    cases quantifier <;> simp [Quantifier.least]

theorem isRegenerable_iff (t : Term ρ π) : t.isRegenerable ↔ t.Regenerable := by
  induction t using Term.inductionOn with
  | rule | pattern => exact ⟨nofun, nofun⟩
  | literal text => exact ⟨fun _ => .literal text, fun _ => rfl⟩
  | group ps ih =>
    cases ps with
    | nil => exact ⟨nofun, nofun⟩
    | cons p ps =>
      obtain ⟨is, trailing⟩ := p
      have own := ih _ List.mem_cons_self
      rw [Term.isRegenerable, productionRegenerable, itemsRegenerable_iff]
      constructor
      · exact fun all => .group fun i member occurs => (own i member).1 (all i member occurs)
      · rintro (_ | all) i member occurs
        exact (own i member).2 (all i member occurs)

end Regenerable

/-! ## Lost items -/

section Lost

variable {ρ π : Type}

/-- An item leaves nothing in the tree, has to occur and does not follow from the grammar. -/
def Item.Lost (i : Item (Term ρ π)) : Prop :=
  i.suppressed = true ∧ 0 < i.quantifier.least ∧ ¬ i.term.Regenerable

/-- No item of a production is lost. -/
def Production.Sound (p : Production (Term ρ π)) : Prop := ∀ i ∈ p.items, ¬ i.Lost

/-- What is found is a lost item at some depth; if nothing is found, there is none. -/
def Finds (found : Option (Item (Term ρ π))) (ps : List (Production (Term ρ π))) : Prop :=
  match found with
  | some i => i.Lost ∧ ∃ p ∈ nested ps, i ∈ p.items
  | none => Throughout Production.Sound ps

variable {is : List (Item (Term ρ π))}

theorem lost_iff (i : Item (Term ρ π)) :
    (i.suppressed && i.quantifier.least != 0 && !i.term.isRegenerable) = true ↔ i.Lost := by
  rw [Item.Lost, ← isRegenerable_iff]
  simp [and_assoc, Nat.pos_iff_ne_zero]

/-- An item that is lost comes before what is in its group. -/
theorem lostItem?_eq (i : Item (Term ρ π)) [Decidable i.Lost] :
    lostItem? i = if i.Lost then some i else lostInTerm? i.term := by
  obtain ⟨slot, label, t, quantifier, suppressed⟩ := i
  rw [lostItem?]
  by_cases lost : Item.Lost ⟨slot, label, t, quantifier, suppressed⟩
  · rw [if_pos lost, if_pos ((lost_iff _).2 lost)]
  · rw [if_neg lost, if_neg (mt (lost_iff _).1 lost)]

/-- The search through the items of a production finds one of them or one in their groups. -/
theorem finds_items (groups : ∀ i ∈ is, Finds (lostInTerm? i.term) i.term.productions) :
    (∀ j, lostInItems? is = some j →
      j.Lost ∧ (j ∈ is ∨ ∃ i ∈ is, ∃ p ∈ nested i.term.productions, j ∈ p.items)) ∧
    (lostInItems? is = none →
      ∀ i ∈ is, ¬ i.Lost ∧ Throughout Production.Sound i.term.productions) := by
  classical
  induction is with
  | nil =>
    constructor
    · rintro j ⟨⟩
    · exact fun _ => List.forall_mem_nil _
  | cons i is ih =>
    obtain ⟨own, others⟩ := List.forall_mem_cons.1 groups
    obtain ⟨found, none⟩ := ih others
    rw [lostInItems?, lostItem?_eq]
    by_cases lost : i.Lost
    · rw [if_pos lost]
      constructor
      · rintro _ ⟨⟩
        exact ⟨lost, .inl List.mem_cons_self⟩
      · rintro ⟨⟩
    · rw [if_neg lost]
      cases inner : lostInTerm? i.term with
      | some j =>
        rw [inner] at own
        obtain ⟨lost, p, member, inside⟩ := own
        constructor
        · rintro _ ⟨⟩
          exact ⟨lost, .inr ⟨i, List.mem_cons_self, p, member, inside⟩⟩
        · rintro ⟨⟩
      | none =>
        rw [inner] at own
        refine ⟨?_, fun all => List.forall_mem_cons.2 ⟨⟨lost, own⟩, none all⟩⟩
        intro j given
        obtain ⟨lost, member | ⟨k, member, deeper⟩⟩ := found j given
        · exact ⟨lost, .inl (List.mem_cons_of_mem _ member)⟩
        · exact ⟨lost, .inr ⟨k, List.mem_cons_of_mem _ member, deeper⟩⟩

theorem finds_productions {ps : List (Production (Term ρ π))}
    (groups : ∀ p ∈ ps, ∀ i ∈ p.items, Finds (lostInTerm? i.term) i.term.productions) :
    Finds (lostInProductions? ps) ps := by
  induction ps with
  | nil => exact List.forall_mem_nil _
  | cons p ps ih =>
    obtain ⟨first, others⟩ := List.forall_mem_cons.1 groups
    obtain ⟨found, none⟩ := finds_items first
    obtain ⟨is, trailing⟩ := p
    rw [lostInProductions?, lostInProduction?]
    cases own : lostInItems? is with
    | some j =>
      obtain ⟨lost, member⟩ := found j own
      refine ⟨lost, ?_⟩
      rcases member with member | ⟨i, member, q, deeper, inside⟩
      · exact ⟨_, mem_nested.2 ⟨_, List.mem_cons_self, .inl rfl⟩, member⟩
      · exact ⟨q, mem_nested.2 ⟨_, List.mem_cons_self, .inr ⟨i, member, deeper⟩⟩, inside⟩
    | none =>
      have rest := ih others
      change Finds (lostInProductions? ps) _
      cases behind : lostInProductions? ps with
      | some j =>
        rw [behind] at rest
        obtain ⟨lost, q, member, inside⟩ := rest
        obtain ⟨p', within, deeper⟩ := mem_nested.1 member
        exact ⟨lost, q, mem_nested.2 ⟨p', List.mem_cons_of_mem _ within, deeper⟩, inside⟩
      | none =>
        rw [behind] at rest
        intro q member
        obtain ⟨p', within, deeper⟩ := mem_nested.1 member
        rcases List.mem_cons.1 within with rfl | within
        · rcases deeper with rfl | ⟨i, inside, deeper⟩
          · exact fun i inside => (none own i inside).1
          · exact (none own i inside).2 q deeper
        · exact rest q (mem_nested.2 ⟨p', within, deeper⟩)

theorem finds_term (t : Term ρ π) : Finds (lostInTerm? t) t.productions := by
  induction t using Term.inductionOn with
  | rule | literal | pattern => exact List.forall_mem_nil _
  | group ps ih => exact finds_productions ih

end Lost

/-- The search through a grammar finds a lost item, with the name of its rule, if there is one. -/
theorem Grammar.finds_lost? (g : Grammar) : match g.lost? with
    | some (name, i) => i.Lost ∧ ∃ r ∈ g.rules, r.name = name ∧ ∃ p ∈ nested r.productions, i ∈ p.items
    | none => ∀ r ∈ g.rules, Throughout Production.Sound r.productions := by
  have each : ∀ r : Rule Grammar.Term, Finds (lostInProductions? r.productions) r.productions := fun r =>
    finds_productions fun p _ i _ => finds_term i.term
  cases searched : g.lost? with
  | none =>
    intro r member
    have none := List.findSome?_eq_none_iff.1 searched r member
    have own := each r
    rwa [Option.map_eq_none_iff.1 none] at own
  | some found =>
    obtain ⟨name, i⟩ := found
    obtain ⟨r, member, given⟩ := List.exists_of_findSome?_eq_some searched
    obtain ⟨j, first, same⟩ := Option.map_eq_some_iff.1 given
    obtain ⟨rfl, rfl⟩ := Prod.mk.inj same
    have own := each r
    rw [first] at own
    exact ⟨own.1, r, member, rfl, own.2⟩

/-! ## Regenerating step by step -/

section Traced

variable (style : Style) (rule : String)

mutual

/-- The text of a term as it is regenerated, with all terms that regenerating comes to. -/
def traced : Grammar.Term → Doc × List Grammar.Term
  | .literal text => (.text text, [.literal text])
  | .group [] => (.empty, [.group []])
  | .group (p :: ps) =>
    let (ds, inner) := tracedProduction p
    (.concat ds, .group (p :: ps) :: inner)
  | .rule id => (.empty, [.rule id])
  | .pattern p => (.empty, [.pattern p])
termination_by structural t => t

def tracedProduction : Production Grammar.Term → List Doc × List Grammar.Term
  | ⟨items, _⟩ => tracedItems items
termination_by structural p => p

def tracedItems : List (Item Grammar.Term) → List Doc × List Grammar.Term
  | [] => ([], [])
  | i :: is =>
    let (ds, first) := tracedItem i
    let (es, others) := tracedItems is
    (ds ++ es, first ++ others)
termination_by structural is => is

def tracedItem : Item Grammar.Term → List Doc × List Grammar.Term
  | ⟨slot, _, term, quantifier, _⟩ =>
    let (d, inner) := traced term
    ((List.replicate quantifier.least (style.usualSlots rule slot ++ [d])).flatten,
      (List.replicate quantifier.least inner).flatten)
termination_by structural i => i

end

variable {style rule}

theorem tracedItems_fst {is : List (Item Grammar.Term)}
    (same : ∀ i ∈ is, (traced style rule i.term).1 = regenerate style rule i.term) :
    (tracedItems style rule is).1 = regenerateItems style rule is := by
  induction is with
  | nil => rfl
  | cons i is ih =>
    obtain ⟨own, others⟩ := List.forall_mem_cons.1 same
    obtain ⟨slot, label, t, quantifier, suppressed⟩ := i
    rw [tracedItems, regenerateItems, ← ih others, tracedItem, regenerateItem, ← own]

/-- The text is the one that is regenerated. -/
theorem traced_fst (t : Grammar.Term) : (traced style rule t).1 = regenerate style rule t := by
  induction t using Term.inductionOn with
  | rule | literal | pattern => rfl
  | group ps ih =>
    cases ps with
    | nil => rfl
    | cons p ps =>
      obtain ⟨is, trailing⟩ := p
      rw [traced, regenerate, tracedProduction, regenerateProduction]
      exact congrArg Doc.concat (tracedItems_fst (ih _ List.mem_cons_self))

theorem mem_tracedItems {is : List (Item Grammar.Term)} {x : Grammar.Term} :
    x ∈ (tracedItems style rule is).2 ↔
      ∃ i ∈ is, 0 < i.quantifier.least ∧ x ∈ (traced style rule i.term).2 := by
  induction is with
  | nil => simp [tracedItems]
  | cons i is ih =>
    obtain ⟨slot, label, t, quantifier, suppressed⟩ := i
    rw [tracedItems, List.mem_append, ih, tracedItem]
    cases quantifier <;> simp [Quantifier.least]

/-- Regenerating what follows from the grammar comes only to what does so too. -/
theorem Term.Regenerable.traced {t : Grammar.Term} (regenerable : t.Regenerable) :
    ∀ x ∈ (traced style rule t).2, x.Regenerable := by
  induction regenerable with
  | literal text => exact List.forall_mem_singleton.2 (.literal text)
  | @group p ps all ih =>
    obtain ⟨is, trailing⟩ := p
    rw [Reprint.traced, tracedProduction]
    refine List.forall_mem_cons.2 ⟨.group all, fun x member => ?_⟩
    obtain ⟨i, inside, occurs, deeper⟩ := mem_tracedItems.1 member
    exact ih i inside occurs x deeper

end Traced

/-! ## Retracing with a sound grammar -/

namespace Unparse

/-- No item is lost that a stretch of the walk comes to, apart from the trees in it. -/
def Stretch.Sound : Stretch → Prop
  | .node .. | .part _ (.slot _) .. => True
  | .alternatives _ _ ps | .part _ (.productions ps) .. => Throughout Production.Sound ps
  | .whole _ _ p | .part _ (.production p) .. =>
    p.Sound ∧ ∀ i ∈ p.items, Throughout Production.Sound i.term.productions
  | .part _ (.term _ t) .. => Throughout Production.Sound t.productions
  | .part _ (.once i) .. => Throughout Production.Sound i.term.productions
  | .part _ (.item i) .. | .part _ (.repeats i _) .. =>
    ¬ i.Lost ∧ Throughout Production.Sound i.term.productions
  | .part _ (.items is) .. => ∀ i ∈ is, ¬ i.Lost ∧ Throughout Production.Sound i.term.productions

variable {w : Walk} {s : Stretch} {log : List Grammar.Term} {out : Outcome}

/-- If no item of the grammar is lost, only terms are regenerated that follow from it. -/
theorem Course.regenerable (course : Course w s log out)
    (grammar : ∀ r ∈ w.grammar.rules, Throughout Production.Sound r.productions) (sound : s.Sound) :
    ∀ t ∈ log, t.Regenerable := by
  induction course with
  | unknown | noAlternative | unstarted | tight | blanks | noBlanks | lackingBlanks | noTrivia | dropped
  | unnamed | literal | pattern | missing | spared | nil | noProduction => exact List.forall_mem_nil _
  | node found _ ih => exact ih (grammar _ (List.mem_of_getElem? found))
  | kept _ _ _ _ ih | rule _ _ ih => exact ih trivial
  | chosen _ _ ih => exact ih (sound.of_mem List.mem_cons_self)
  | otherwise _ _ first second =>
    exact List.forall_mem_append.2 ⟨first (sound.of_mem List.mem_cons_self), second sound.tail⟩
  | whole _ _ ih | leftover _ _ _ ih | unfinished _ _ _ ih | group _ ih => exact ih sound
  | noSlot _ _ ih | unopened _ _ ih => exact ih trivial
  | once _ _ _ first second => exact List.forall_mem_append.2 ⟨first trivial, second sound⟩
  | @rebuilt _ i _ _ suppressed occurs =>
    have follows : i.term.Regenerable := by
      by_contra lost
      exact sound.1 ⟨suppressed, by omega, lost⟩
    exact List.forall_mem_singleton.2 follows
  | single _ _ _ ih | optional _ _ _ ih | stop _ _ _ ih | torn _ _ _ _ _ ih | last _ _ _ _ ih =>
    exact ih sound.2
  | more shown _ _ _ _ first second =>
    refine List.forall_mem_append.2 ⟨first sound.2, second ⟨fun lost => ?_, sound.2⟩⟩
    exact Bool.false_ne_true (shown.symm.trans lost.1)
  | cons _ _ first second =>
    obtain ⟨own, others⟩ := List.forall_mem_cons.1 sound
    exact List.forall_mem_append.2 ⟨first own, second others⟩
  | noItem _ _ ih => exact ih (sound _ List.mem_cons_self)
  | production _ _ first second =>
    exact List.forall_mem_append.2
      ⟨first fun i member => ⟨sound.1 i member, sound.2 i member⟩, second trivial⟩
  | noItems _ _ ih => exact ih fun i member => ⟨sound.1 i member, sound.2 i member⟩
  | here _ _ ih => exact ih (sound.of_mem List.mem_cons_self)
  | next _ _ first second =>
    exact List.forall_mem_append.2 ⟨first (sound.of_mem List.mem_cons_self), second sound.tail⟩

end Unparse

/-! ## Unparsers -/

/-- An unparser that is made regenerates only what follows from the grammar, in every
course of the walk, and comes to no reference and no pattern on the way.  It is refused
for an item exactly if the style has no conflicts and some item is lost. -/
theorem regenerable_of_make (g : Grammar) (s : Style) :
    (∀ u, Unparser.make g s = .ok u → ∀ source tree inTrivia log out,
      Unparse.Course ⟨u.grammar, u.style, source⟩ (.node tree inTrivia) log out → ∀ t ∈ log, ∀ rule,
        (traced u.style rule t).1 = regenerate u.style rule t ∧
        ∀ x ∈ (traced u.style rule t).2, x.Regenerable ∧ (∀ id, x ≠ .rule id) ∧ ∀ p, x ≠ .pattern p) ∧
    ((∃ rule text, Unparser.make g s = .error (.notRegenerable rule text)) ↔
      s.conflicts = [] ∧ ∃ r ∈ g.rules, ∃ p ∈ nested r.productions, ∃ i ∈ p.items, i.Lost) := by
  have searched := g.finds_lost?
  constructor
  · intro u made source tree inTrivia log out course t member rule
    refine ⟨traced_fst t, fun x visited => ?_⟩
    have sound : u.grammar = g ∧ g.lost? = none := by
      unfold Unparser.make at made
      split at made
      · cases made
      · split at made
        · cases made
        · next none =>
          obtain rfl := Except.ok.inj made
          exact ⟨rfl, none⟩
    rw [sound.2] at searched
    have regenerable : x.Regenerable :=
      (course.regenerable (sound.1 ▸ searched) trivial t member).traced x visited
    refine ⟨regenerable, ?_, ?_⟩
    · rintro id rfl
      cases regenerable
    · rintro p rfl
      cases regenerable
  · unfold Unparser.make
    cases conflicts : s.conflicts with
    | cons conflict rest => simp
    | nil =>
      cases found : g.lost? with
      | none =>
        rw [found] at searched
        simp only [reduceCtorEq, exists_false, true_and, false_iff]
        rintro ⟨r, member, p, inside, i, among, lost⟩
        exact searched r member p inside i among lost
      | some found' =>
        obtain ⟨name, i⟩ := found'
        rw [found] at searched
        obtain ⟨lost, r, member, -, p, inside, among⟩ := searched
        exact ⟨fun _ => ⟨rfl, r, member, p, inside, i, among, lost⟩, fun _ => ⟨_, _, rfl⟩⟩

/-- A semicolon, behind which there may be another one. -/
def semicolon : Grammar.Term :=
  .group [⟨[{ term := .literal ";" }, { term := .rule 0, quantifier := .optional }], .none⟩]

/-- One semicolon, which leaves nothing in the tree. -/
def closing : Grammar where
  rules := [⟨"end", [⟨[{ term := semicolon, suppressed := true }], .none⟩]⟩]
  trivia := none

/-- The semicolon is regenerated, but not the rule that may come behind it. -/
theorem regenerable_of_make_semicolon :
    Unparser.make closing {} = .ok ⟨closing, {}⟩ ∧
    (∃ out, Unparse.Course ⟨closing, {}, ";"⟩ (.node ⟨0, ⟨0, 1⟩, []⟩ false) [semicolon] out) ∧
    (traced {} "end" semicolon).2 = [semicolon, .literal ";"] ∧
    ∀ x ∈ [semicolon, .literal ";"], x.Regenerable ∧ (∀ id, x ≠ .rule id) ∧ ∀ p, x ≠ .pattern p := by
  have made : Unparser.make closing {} = .ok ⟨closing, {}⟩ := by with_unfolding_all rfl
  have rebuilt : Unparse.Course ⟨closing, {}, ";"⟩
      (.part (Unparse.Walk.context ⟨closing, {}, ";"⟩ "end" false)
        (.item { term := semicolon, suppressed := true }) [] {})
      [semicolon] (.fits ([], _)) := .rebuilt rfl rfl
  have course : Unparse.Course ⟨closing, {}, ";"⟩ (.node ⟨0, ⟨0, 1⟩, []⟩ false)
      ([semicolon] ++ [] ++ []) _ :=
    .node rfl (.chosen (.whole rfl (.production (.cons rebuilt .nil) .tight)) nofun)
  have visited : (traced {} "end" semicolon).2 = [semicolon, .literal ";"] := rfl
  have safe := ((regenerable_of_make closing {}).1 _ made ";" _ _ _ _ course semicolon
    List.mem_cons_self "end").2
  exact ⟨made, ⟨_, course⟩, visited, visited ▸ safe⟩

end Reprint
