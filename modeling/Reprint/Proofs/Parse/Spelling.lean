import Reprint.Proofs.Parse.Tiling

/-!
# Spellings of a tree

In a grammar without blanks, what is missing in a tree are the suppressed literals.
A spelling of a tree is a text that the grammar can make of its tokens by putting
such literals between them (`Spells`).  Nothing is said about the order in which
productions are tried or about how often a repetition goes on, so a tree may have
several spellings.

The text that a tree was parsed from is one of them (`spelling_of_parse`).
-/

namespace Reprint

/-- No blanks may stand in the slots of a production, and what it suppresses are
literals. -/
def Production.Condensed (p : Production Grammar.Term) : Prop :=
  p.trailing = .none ∧
    ∀ i ∈ p.items, i.slot = .none ∧ (i.suppressed → ∃ text, i.term = .literal text)

/-- Nowhere may blanks stand, and all that is suppressed are literals. -/
structure Grammar.Condensed (g : Grammar) : Prop where
  trivia : g.trivia = none
  throughout : ∀ r ∈ g.rules, Throughout Production.Condensed r.productions

/-- A pattern takes this text, at least where a certain one follows. -/
def Pattern.Takes (p : Pattern) (text : List Char) : Prop :=
  ∃ cs count, p.taken? cs = some count ∧ cs.take count = text

/-! ## Spellings -/

open Matching (Part) in
/-- The children that a part of a grammar left can be written with this text. -/
inductive Spells (g : Grammar) (source : String) : Part → List Child → List Char → Prop
  | literal {label : Option String} {text : String} {span : Span} :
      span.slice? source = some text →
      Spells g source (.term label (.literal text)) [.token label span] text.toList
  | pattern {label : Option String} {p : Pattern} {text : String} {span : Span} :
      span.slice? source = some text → p.Takes text.toList →
      Spells g source (.term label (.pattern p)) [.token label span] text.toList
  | node {label : Option String} {id : Nat} {r : Rule Grammar.Term} {p : Production Grammar.Term}
      {span : Span} {children : List Child} {text : List Char} :
      g.rules[id]? = some r → p ∈ r.productions → Spells g source (.production p) children text →
      Spells g source (.term label (.rule id)) [.node label ⟨id, span, children⟩] text
  | group {label : Option String} {p : Production Grammar.Term} {ps : List (Production Grammar.Term)}
      {children : List Child} {text : List Char} :
      p ∈ ps → Spells g source (.production p) children text →
      Spells g source (.term label (.group ps)) children text
  | shown {i : Item Grammar.Term} {children : List Child} {text : List Char} :
      i.suppressed = false → Spells g source (.term i.label i.term) children text →
      Spells g source (.once i) children text
  /-- A suppressed literal leaves no child. -/
  | hidden {i : Item Grammar.Term} {text : String} :
      i.suppressed = true → i.term = .literal text → Spells g source (.once i) [] text.toList
  | zero {i : Item Grammar.Term} : Spells g source (.repeats i 0) [] []
  | succ {i : Item Grammar.Term} {count : Nat} {front back : List Child} {text more : List Char} :
      Spells g source (.once i) front text → Spells g source (.repeats i count) back more →
      Spells g source (.repeats i (count + 1)) (front ++ back) (text ++ more)
  | item {i : Item Grammar.Term} {count : Nat} {children : List Child} {text : List Char} :
      i.quantifier.least ≤ count → i.quantifier.repeats ∨ count ≤ 1 →
      Spells g source (.repeats i count) children text → Spells g source (.item i) children text
  | nil : Spells g source (.items []) [] []
  | cons {i : Item Grammar.Term} {is : List (Item Grammar.Term)} {front back : List Child}
      {text more : List Char} :
      Spells g source (.item i) front text → Spells g source (.items is) back more →
      Spells g source (.items (i :: is)) (front ++ back) (text ++ more)
  | production {p : Production Grammar.Term} {children : List Child} {text : List Char} :
      Spells g source (.items p.items) children text → Spells g source (.production p) children text

/-- A text that a tree can be written with. -/
def Spelling (g : Grammar) (source : String) (tree : Tree) (text : List Char) : Prop :=
  ∃ r p, g.rules[tree.rule]? = some r ∧ p ∈ r.productions ∧
    Spells g source (.production p) tree.children text

namespace Spells

variable {g : Grammar} {source : String} {i : Item Grammar.Term} {children : List Child}
  {text : List Char}

theorem one (once : Spells g source (.once i) children text) :
    Spells g source (.repeats i 1) children text := by
  have all := Spells.succ once .zero
  rwa [List.append_nil, List.append_nil] at all

theorem single (once : Spells g source (.once i) children text) : Spells g source (.item i) children text := by
  refine .item ?_ (.inr (Nat.le_refl 1)) once.one
  cases i.quantifier <;> decide

/-! ### What a spelling consists of -/

theorem nil_iff : Spells g source (.items []) children text ↔ children = [] ∧ text = [] := by
  constructor
  · rintro ⟨⟩
    exact ⟨rfl, rfl⟩
  · rintro ⟨rfl, rfl⟩
    exact .nil

theorem cons_iff {is : List (Item Grammar.Term)} :
    Spells g source (.items (i :: is)) children text ↔ ∃ front back first others,
      children = front ++ back ∧ text = first ++ others ∧ Spells g source (.item i) front first ∧
        Spells g source (.items is) back others := by
  constructor
  · intro spells
    cases spells with
    | cons one rest => exact ⟨_, _, _, _, rfl, rfl, one, rest⟩
  · rintro ⟨front, back, first, others, rfl, rfl, one, rest⟩
    exact .cons one rest

theorem production_iff {p : Production Grammar.Term} :
    Spells g source (.production p) children text ↔ Spells g source (.items p.items) children text :=
  ⟨fun spells => by cases spells; assumption, .production⟩

theorem group_iff {label : Option String} {ps : List (Production Grammar.Term)} :
    Spells g source (.term label (.group ps)) children text ↔
      ∃ p ∈ ps, Spells g source (.production p) children text := by
  constructor
  · intro spells
    cases spells with
    | group member spells => exact ⟨_, member, spells⟩
  · rintro ⟨p, member, spells⟩
    exact .group member spells

/-- A required item occurs once. -/
theorem item_iff_of_one (one : i.quantifier = .one) :
    Spells g source (.item i) children text ↔ Spells g source (.once i) children text := by
  refine ⟨fun spells => ?_, single⟩
  cases spells with
  | item least most spells =>
    rw [one] at least most
    cases spells with
    | zero => cases least
    | succ once rest =>
      cases rest with
      | succ => simp [Quantifier.repeats] at most
      | zero => rwa [List.append_nil, List.append_nil]

theorem once_iff_of_literal {word : String} (literal : i.term = .literal word) :
    Spells g source (.once i) children text ↔ text = word.toList ∧
      if i.suppressed then children = []
      else ∃ span, children = [.token i.label span] ∧ span.slice? source = some word := by
  constructor
  · intro spells
    cases spells with
    | shown shown spells =>
      rw [literal] at spells
      cases spells with
      | literal found => exact ⟨rfl, by rw [shown]; exact ⟨_, rfl, found⟩⟩
    | hidden hidden literal' =>
      obtain rfl := Term.literal.inj (literal.symm.trans literal')
      exact ⟨rfl, by rw [hidden]; rfl⟩
  · rintro ⟨rfl, left⟩
    split_ifs at left with hidden
    · exact left ▸ .hidden hidden literal
    · obtain ⟨span, rfl, found⟩ := left
      exact .shown (Bool.not_eq_true _ ▸ hidden) (literal ▸ .literal found)

/-- A literal has one text, and a child with this text unless it is suppressed. -/
theorem literal_iff {slot : Separator} {label : Option String} {word : String} {suppressed : Bool} :
    Spells g source (.item ⟨slot, label, .literal word, .one, suppressed⟩) children text ↔
      text = word.toList ∧ if suppressed then children = []
        else ∃ span, children = [.token label span] ∧ span.slice? source = some word := by
  rw [item_iff_of_one rfl, once_iff_of_literal rfl]

end Spells

/-! ## Matching -/

namespace Matching

variable {g : Grammar} {source : String}

/-- What an attempt takes from a source is a text of the part, with the children
that it finds. -/
def SpellsOut (g : Grammar) (source : String) (part : Part) (attempt : Cursor → Attempted Found) : Prop :=
  ∀ {c d : Cursor} {children : List Child}, c.In source → (attempt c).Gives (some (children, d)) →
    ∃ text, c.Ahead text d ∧ Spells g source part children text

/-- What a rule takes from a source is a text of its tree. -/
def CallSpells (g : Grammar) (source : String)
    (call : Nat → Bool → RuleStack → Cursor → Attempted (Tree × Cursor)) : Prop :=
  ∀ {id : Nat} {inTrivia : Bool} {stack : RuleStack} {c d : Cursor} {tree : Tree}, c.In source →
    (call id inTrivia stack c).Gives (some (tree, d)) →
    tree.rule = id ∧ ∃ text, c.Ahead text d ∧ Spelling g source tree text

section Spell

variable {ctx : Context}

theorem spellsOut_literal (label : Option String) (text : String) :
    SpellsOut g source (.term label (.literal text)) (ctx.literal label text) := by
  intro c d children within given
  obtain ⟨found, rfl, rfl⟩ := gives_literal.1 given
  have ahead := Cursor.ahead_advance c text.toList.length
  rw [← List.prefix_iff_eq_take.1 found] at ahead
  refine ⟨text.toList, ahead, .literal ?_⟩
  rw [ahead.slice?_spanTo within, String.ofList_toList]

theorem spellsOut_pattern (label : Option String) (p : Pattern) :
    SpellsOut g source (.term label (.pattern p)) (ctx.pattern label p) := by
  intro c d children within given
  obtain ⟨count, found, rfl, rfl⟩ := gives_pattern.1 given
  have ahead := Cursor.ahead_advance c count
  refine ⟨_, ahead, ?_⟩
  rw [← String.toList_ofList (l := c.rest.take count)]
  refine .pattern (ahead.slice?_spanTo within) ⟨c.rest, count, found, ?_⟩
  rw [String.toList_ofList]

theorem spellsOut_node (calls : CallSpells g source ctx.call) (label : Option String) (id : Nat) :
    SpellsOut g source (.term label (.rule id)) (term ctx label (.rule id)) := by
  intro c d children within given
  obtain ⟨⟨id', span, inner⟩, called, rfl⟩ := gives_node.1 given
  obtain ⟨rfl, text, ahead, r, p, found, member, spelled⟩ := calls within called
  exact ⟨text, ahead, .node found member spelled⟩

theorem spellsOut_once {i : Item Grammar.Term} (tight : i.slot = .none)
    (literal : i.suppressed → ∃ text, i.term = .literal text)
    (spells : SpellsOut g source (.term i.label i.term) (term ctx i.label i.term)) :
    SpellsOut g source (.once i) (once ctx i) := by
  intro c d children within given
  obtain ⟨before, e, inside, slotted, matched, rfl⟩ := gives_once.1 given
  rw [tight, gives_slot_none] at slotted
  obtain ⟨rfl, rfl⟩ := slotted
  obtain ⟨text, ahead, spelled⟩ := spells within matched
  cases shown : i.suppressed with
  | false => exact ⟨text, ahead, .shown shown spelled⟩
  | true =>
    obtain ⟨word, named⟩ := literal shown
    rw [named] at spelled
    cases spelled
    exact ⟨_, ahead, .hidden shown named⟩

theorem exists_of_occurs {i : Item Grammar.Term} (spells : SpellsOut g source (.once i) (once ctx i))
    {count : Nat} {c d : Cursor} {children : List Child} (within : c.In source)
    (occurs : Occurs (once ctx i) count c children d) :
    ∃ text, c.Ahead text d ∧ Spells g source (.repeats i count) children text := by
  induction occurs with
  | zero => exact ⟨[], .refl _, .zero⟩
  | succ first _ ih =>
    obtain ⟨text, ahead, spelled⟩ := spells within first
    obtain ⟨others, further, spelled'⟩ := ih (within.ahead ahead)
    exact ⟨_, ahead.trans further, .succ spelled spelled'⟩

theorem spellsOut_item {i : Item Grammar.Term} (spells : SpellsOut g source (.once i) (once ctx i)) :
    SpellsOut g source (.item i) (item ctx i) := by
  intro c d children within given
  obtain ⟨count, least, most, occurs⟩ := exists_of_item given
  obtain ⟨text, ahead, spelled⟩ := exists_of_occurs spells within occurs
  exact ⟨text, ahead, .item least most spelled⟩

theorem spellsOut_items {is : List (Item Grammar.Term)}
    (spells : ∀ i ∈ is, SpellsOut g source (.item i) (item ctx i)) :
    SpellsOut g source (.items is) (items ctx is) := by
  induction is with
  | nil =>
    intro c d children within given
    obtain ⟨rfl, rfl⟩ := gives_nil.1 given
    exact ⟨[], .refl d, .nil⟩
  | cons i is ih =>
    intro c d children within given
    obtain ⟨first, others⟩ := List.forall_mem_cons.1 spells
    obtain ⟨front, e, back, one, rest, rfl⟩ := gives_cons.1 given
    obtain ⟨text, ahead, spelled⟩ := first within one
    obtain ⟨more, further, spelled'⟩ := ih others (within.ahead ahead) rest
    exact ⟨_, ahead.trans further, .cons spelled spelled'⟩

theorem spellsOut_production {p : Production Grammar.Term} (condensed : p.Condensed)
    (spells : ∀ i ∈ p.items, SpellsOut g source (.term i.label i.term) (term ctx i.label i.term)) :
    SpellsOut g source (.production p) (production ctx p) := by
  intro c d children within given
  obtain ⟨tight, each⟩ := condensed
  obtain ⟨front, e, back, body, slotted, rfl⟩ := gives_production.1 given
  rw [tight, gives_slot_none] at slotted
  obtain ⟨rfl, rfl⟩ := slotted
  have all : SpellsOut g source (.items p.items) (items ctx p.items) := spellsOut_items fun i member =>
    spellsOut_item (spellsOut_once (each i member).1 (each i member).2 (spells i member))
  obtain ⟨text, ahead, spelled⟩ := all within body
  rw [List.append_nil]
  exact ⟨text, ahead, .production spelled⟩

theorem spellsOut_term (calls : CallSpells g source ctx.call) (t : Grammar.Term)
    (condensed : Throughout Production.Condensed t.productions) :
    ∀ label, SpellsOut g source (.term label t) (term ctx label t) := by
  induction t using Term.inductionOn with
  | rule id => exact fun label => spellsOut_node calls label id
  | literal text => exact fun label => spellsOut_literal label text
  | pattern p => exact fun label => spellsOut_pattern label p
  | group ps ih =>
    intro label c d children within given
    obtain ⟨p, first, given⟩ := exists_first given
    obtain ⟨own, deeper⟩ := condensed.of_mem first.mem
    have inner : SpellsOut g source (.production p) (production ctx p) :=
      spellsOut_production own fun i inside => ih p first.mem i inside (deeper i inside) i.label
    obtain ⟨text, ahead, spelled⟩ := inner within given
    exact ⟨text, ahead, .group first.mem spelled⟩

end Spell

theorem callSpells_rule (condensed : g.Condensed) (depth : Nat) : CallSpells g source (rule g depth) := by
  induction depth with
  | zero =>
    intro id inTrivia stack c d tree _ given
    exact absurd given not_gives_rule_zero
  | succ depth ih =>
    intro id inTrivia stack c d tree within given
    obtain ⟨r, p, children, found, first, matched, rfl⟩ := exists_of_rule given
    obtain ⟨own, inner⟩ := (condensed.throughout r (List.mem_of_getElem? found)).of_mem first.mem
    have spells : SpellsOut g source (.production p)
        (production ((Site.of g id depth inTrivia stack c).context g) p) :=
      spellsOut_production own fun i inside => spellsOut_term ih i.term (inner i inside) i.label
    obtain ⟨text, ahead, spelled⟩ := spells within matched
    exact ⟨rfl, text, ahead, r, p, found, first.mem, spelled⟩

end Matching

/-- A text is a spelling of the tree that it is parsed into. -/
theorem spelling_of_parse {g : Grammar} (condensed : g.Condensed) {rule source : String} {tree : Tree}
    (parsed : g.parse rule source = .ok tree) : Spelling g source tree source.toList := by
  obtain ⟨id, d, _, done, given⟩ := Matching.exists_of_parse parsed
  obtain ⟨_, text, ahead, spelled⟩ :=
    Matching.callSpells_rule condensed _ (Cursor.in_start source) given
  have whole : source.toList = text := by
    have split := ahead.1
    rwa [done, List.append_nil] at split
  rwa [whole]

end Reprint
