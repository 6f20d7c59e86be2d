import Mathlib.Data.List.Basic
import Reprint.Parse

/-!
# What a success consists of

A part of a grammar matches if its own parts do, one behind the other.  For each function of
the matcher one statement says what a success of it consists of: a slot matches in one of six
ways (`SlotTakes`), an item by a number of occurrences (`exists_of_item`), a list of
productions by the first one that matches (`exists_first`), a rule by one of its productions
(`exists_of_rule`).

What is said elsewhere about the children and the places of successful matches follows these
statements.  Only where it matters what was tried and given up on the way is the matcher
opened again.
-/

namespace Reprint

/-! ## Outcomes of attempts -/

namespace Attempted

variable {α β : Type}

/-- The attempt ends, with this value or without one. -/
def Gives (x : Attempted α) (v : Option α) : Prop := ∃ raised, x = some ⟨raised, v⟩

theorem Gives.unique {x : Attempted α} {u v : Option α} (first : x.Gives u) (second : x.Gives v) :
    u = v := by
  obtain ⟨raised, rfl⟩ := first
  obtain ⟨raised', same⟩ := second
  exact (Attempt.mk.inj (Option.some.inj same)).2

@[simp] theorem gives_succeed {a : α} {v : Option α} : (succeed a).Gives v ↔ v = some a := by
  simp [Gives, succeed, eq_comm]

@[simp] theorem gives_miss {e : Expectation} {v : Option α} : (miss e).Gives v ↔ v = none := by
  simp [Gives, miss, eq_comm]

@[simp] theorem gives_fail {v : Option α} : (fail : Attempted α).Gives v ↔ v = none := by
  simp [Gives, fail, eq_comm]

theorem gives_proceed {x : Attempted α} {f : Option α → Attempted β} {v : Option β} :
    (x.proceed f).Gives v ↔ ∃ u, x.Gives u ∧ (f u).Gives v := by
  constructor
  · rintro ⟨raised, given⟩
    obtain ⟨a, first, given⟩ := Option.bind_eq_some_iff.1 given
    obtain ⟨b, second, same⟩ := Option.map_eq_some_iff.1 given
    obtain ⟨_, rfl⟩ := Attempt.mk.inj same
    exact ⟨a.value, ⟨a.raised, first⟩, ⟨b.raised, second⟩⟩
  · rintro ⟨u, ⟨raised, rfl⟩, ⟨raised', given⟩⟩
    exact ⟨raised ++ raised', by simp [proceed, given]⟩

@[simp] theorem gives_andThen {x : Attempted α} {f : α → Attempted β} {b : β} :
    (x.andThen f).Gives (some b) ↔ ∃ a, x.Gives (some a) ∧ (f a).Gives (some b) := by
  rw [andThen, gives_proceed]
  constructor
  · rintro ⟨u, first, second⟩
    cases u with
    | none => simp at second
    | some a => exact ⟨a, first, second⟩
  · rintro ⟨a, first, second⟩
    exact ⟨some a, first, second⟩

@[simp] theorem gives_orElse {x : Attempted α} {y : Unit → Attempted α} {a : α} :
    (x.orElse y).Gives (some a) ↔ x.Gives (some a) ∨ (x.Gives none ∧ (y ()).Gives (some a)) := by
  rw [orElse, gives_proceed]
  constructor
  · rintro ⟨u, first, second⟩
    cases u with
    | none => exact .inr ⟨first, second⟩
    | some b =>
      obtain rfl := Option.some.inj (gives_succeed.1 second)
      exact .inl first
  · rintro (first | ⟨first, second⟩)
    · exact ⟨some a, first, gives_succeed.2 rfl⟩
    · exact ⟨none, first, second⟩

@[simp] theorem gives_map {f : α → β} {x : Attempted α} {b : β} :
    (x.map f).Gives (some b) ↔ ∃ a, x.Gives (some a) ∧ f a = b := by
  constructor
  · rintro ⟨raised, given⟩
    obtain ⟨a, first, same⟩ := Option.map_eq_some_iff.1 given
    obtain ⟨_, value⟩ := Attempt.mk.inj same
    obtain ⟨u, held, rfl⟩ := Option.map_eq_some_iff.1 value
    exact ⟨u, ⟨a.raised, by rw [first, ← held]⟩, rfl⟩
  · rintro ⟨a, ⟨raised, rfl⟩, rfl⟩
    exact ⟨raised, rfl⟩

@[simp] theorem gives_quiet {x : Attempted α} {v : Option α} : x.quiet.Gives v ↔ x.Gives v := by
  constructor
  · rintro ⟨raised, given⟩
    obtain ⟨a, first, same⟩ := Option.map_eq_some_iff.1 given
    obtain ⟨_, rfl⟩ := Attempt.mk.inj same
    exact ⟨a.raised, first⟩
  · rintro ⟨raised, rfl⟩
    exact ⟨[], rfl⟩

end Attempted

namespace Matching

/-! ## Slots, literals and patterns -/

theorem width_eq_zero {cs : List Char} : Text.width cs = 0 ↔ cs = [] := by
  cases cs with
  | nil => simp [Text.width]
  | cons c cs =>
    have positive := c.utf8Size_pos
    simp only [Text.width, reduceCtorEq, iff_false]
    omega

theorem take_length_takeWhile (p : Char → Bool) (cs : List Char) :
    cs.take (cs.takeWhile p).length = cs.takeWhile p :=
  (List.prefix_iff_eq_take.1 (List.takeWhile_prefix p)).symm

/-- Characters of one kind end where they begin if there are none. -/
theorem offset_eq_takeWhile_iff {c : Cursor} {p : Char → Bool} :
    c.offset = (c.advance (c.rest.takeWhile p).length).offset ↔ c.rest.takeWhile p = [] := by
  rw [Cursor.advance, take_length_takeWhile, ← width_eq_zero]
  simp

/-- How a slot matches at a place, with the children it leaves and the place behind it. -/
inductive SlotTakes (ctx : Context) (c : Cursor) : Separator → List Child → Cursor → Prop
  | tight : SlotTakes ctx c .none [] c
  | blanks {sep : Separator} {text : List Char} :
      sep ≠ .none → ctx.inTrivia → c.rest.takeWhile Text.isBlank = text → text ≠ [] →
      SlotTakes ctx c sep [.token none (c.spanTo (c.advance text.length))] (c.advance text.length)
  | noBlanks : ctx.inTrivia → c.rest.takeWhile Text.isBlank = [] → SlotTakes ctx c .allowed [] c
  | untold {sep : Separator} :
      sep ≠ .none → ctx.inTrivia = false → ctx.grammar.trivia = none → SlotTakes ctx c sep [] c
  | trivia {sep : Separator} {id : Nat} {tree : Tree} {d : Cursor} :
      sep ≠ .none → ctx.inTrivia = false → ctx.grammar.trivia = some id →
      (ctx.call id true ctx.stack c).Gives (some (tree, d)) → ¬ tree.span.isEmpty →
      SlotTakes ctx c sep [.trivia none tree] d
  | noTrivia {id : Nat} :
      ctx.inTrivia = false → ctx.grammar.trivia = some id →
      (∀ tree d, (ctx.call id true ctx.stack c).Gives (some (tree, d)) → tree.span.isEmpty) →
      SlotTakes ctx c .allowed [] c

section Gives

variable {ctx : Context} {sep : Separator} {c d : Cursor} {children : List Child}

theorem eq_allowed (some : sep ≠ .none) (optional : sep ≠ .required) : sep = .allowed := by
  cases sep with
  | none => exact absurd rfl some
  | allowed => rfl
  | required => exact absurd rfl optional

/-- A slot in which nothing stands and where nothing has to stand. -/
theorem gives_emptySlot :
    (ctx.emptySlot sep c).Gives (some (children, d)) ↔ sep ≠ .required ∧ children = [] ∧ d = c := by
  unfold Context.emptySlot Context.missing
  split_ifs with required
  · simp [required]
  · simp [required]

theorem slotTakes_of_gives (given : (ctx.slot sep c).Gives (some (children, d))) :
    SlotTakes ctx c sep children d := by
  unfold Context.slot at given
  split_ifs at given with tight inTrivia
  · obtain ⟨rfl, rfl⟩ := by simpa using given
    exact tight ▸ .tight
  · dsimp only at given
    split_ifs at given with same
    · obtain ⟨optional, rfl, rfl⟩ := gives_emptySlot.1 given
      exact eq_allowed tight optional ▸ .noBlanks inTrivia (offset_eq_takeWhile_iff.1 same)
    · obtain ⟨rfl, rfl⟩ := by simpa using given
      exact .blanks tight inTrivia rfl (mt offset_eq_takeWhile_iff.2 same)
  · have outside : ctx.inTrivia = false := Bool.not_eq_true _ ▸ inTrivia
    split at given
    · next none =>
      obtain ⟨rfl, rfl⟩ := by simpa using given
      exact .untold tight outside none
    · next id known =>
      obtain ⟨result, called, given⟩ := Attempted.gives_proceed.1 given
      rw [Attempted.gives_quiet] at called
      have nothing : (ctx.emptySlot sep c).Gives (some (children, d)) →
          (∀ tree e, result = some (tree, e) → tree.span.isEmpty) → SlotTakes ctx c sep children d := by
        intro given empty
        obtain ⟨optional, rfl, rfl⟩ := gives_emptySlot.1 given
        rw [eq_allowed tight optional]
        exact .noTrivia outside known fun tree e again => empty tree e (called.unique again)
      split at given
      · next tree e =>
        split_ifs at given with empty
        · refine nothing given ?_
          rintro _ _ ⟨⟩
          exact empty
        · obtain ⟨rfl, rfl⟩ := by simpa using given
          exact .trivia tight outside known called empty
      · exact nothing given nofun

/-- Nothing stands in a slot without blanks. -/
theorem gives_slot_none : (ctx.slot .none c).Gives (some (children, d)) ↔ children = [] ∧ d = c := by
  simp [Context.slot]

theorem gives_literal {label : Option String} {text : String} :
    (ctx.literal label text c).Gives (some (children, d)) ↔
      text.toList <+: c.rest ∧ d = c.advance text.toList.length ∧ children = [.token label (c.spanTo d)] := by
  unfold Context.literal Context.missing
  split_ifs with found
  · rw [Attempted.gives_succeed, Option.some.injEq, Prod.mk.injEq]
    constructor
    · rintro ⟨rfl, rfl⟩
      exact ⟨List.isPrefixOf_iff_prefix.1 found, rfl, rfl⟩
    · rintro ⟨-, rfl, rfl⟩
      exact ⟨rfl, rfl⟩
  · rw [Attempted.gives_miss]
    exact ⟨nofun, fun given => absurd (List.isPrefixOf_iff_prefix.2 given.1) found⟩

theorem gives_pattern {label : Option String} {p : Pattern} :
    (ctx.pattern label p c).Gives (some (children, d)) ↔
      ∃ count, p.taken? c.rest = some count ∧ d = c.advance count ∧
        children = [.token label (c.spanTo d)] := by
  unfold Context.pattern Context.missing
  cases taken : p.taken? c.rest with
  | none => simp
  | some count =>
    rw [Attempted.gives_succeed, Option.some.injEq, Prod.mk.injEq]
    constructor
    · rintro ⟨rfl, rfl⟩
      exact ⟨count, rfl, rfl, rfl⟩
    · rintro ⟨_, ⟨⟩, rfl, rfl⟩
      exact ⟨rfl, rfl⟩

end Gives

/-! ## Items -/

/-- Two attempts one behind the other, with the children of both. -/
theorem gives_append {x : Attempted Found} {f : Cursor → Attempted Found} {d : Cursor}
    {children : List Child} :
    (x.andThen fun (front, e) => (f e).map fun (back, e) => (front ++ back, e)).Gives
        (some (children, d)) ↔
      ∃ front e back, x.Gives (some (front, e)) ∧ (f e).Gives (some (back, d)) ∧
        children = front ++ back := by
  rw [Attempted.gives_andThen]
  constructor
  · rintro ⟨⟨front, e⟩, first, given⟩
    obtain ⟨⟨back, d'⟩, second, same⟩ := Attempted.gives_map.1 given
    obtain ⟨rfl, rfl⟩ := Prod.mk.inj same
    exact ⟨front, e, back, first, second, rfl⟩
  · rintro ⟨front, e, back, first, second, rfl⟩
    exact ⟨(front, e), first, Attempted.gives_map.2 ⟨(back, d), second, rfl⟩⟩

/-- One occurrence of an item. -/
def once (ctx : Context) (i : Item Grammar.Term) (c : Cursor) : Attempted Found :=
  (ctx.slot i.slot c).andThen fun (before, d) =>
    (term ctx i.label i.term d).map fun (children, e) =>
      (if i.suppressed then [] else before ++ children, e)

theorem item_eq (ctx : Context) (i : Item Grammar.Term) (c : Cursor) :
    item ctx i c = quantified i.quantifier (once ctx i) c := by
  cases i
  rw [item]
  rfl

/-- So many occurrences one behind the other. -/
inductive Occurs (once : Cursor → Attempted Found) : Nat → Cursor → List Child → Cursor → Prop
  | zero (c : Cursor) : Occurs once 0 c [] c
  | succ {count : Nat} {c d e : Cursor} {front back : List Child} :
      (once c).Gives (some (front, d)) → Occurs once count d back e →
      Occurs once (count + 1) c (front ++ back) e

section Occurs

variable {once : Cursor → Attempted Found} {c d : Cursor} {children : List Child}

theorem Occurs.one (given : (once c).Gives (some (children, d))) : Occurs once 1 c children d := by
  have all := Occurs.succ given (.zero d)
  rwa [List.append_nil] at all

theorem occurs_repeated {count : Nat}
    (given : (repeated once c).Gives (some (count, children, d))) :
    Occurs once count c children d := by
  induction size : c.rest.length using Nat.strongRecOn generalizing c count children with
  | ind n ih =>
    subst size
    rw [repeated] at given
    obtain ⟨result, first, given⟩ := Attempted.gives_proceed.1 given
    split at given
    · obtain ⟨rfl, rfl, rfl⟩ := by simpa using given
      exact .zero _
    · next found e =>
      split_ifs at given with progress
      · obtain ⟨⟨count', more, f⟩, rest, same⟩ := Attempted.gives_map.1 given
        obtain ⟨rfl, rfl, rfl⟩ := by simpa using same
        exact .succ first (ih _ progress rest rfl)
      · obtain ⟨rfl, rfl, rfl⟩ := by simpa using given
        exact .one first

/-- What a quantifier takes are as many occurrences as it asks for. -/
theorem exists_of_quantified {quantifier : Quantifier}
    (given : (quantified quantifier once c).Gives (some (children, d))) :
    ∃ count, quantifier.least ≤ count ∧ (quantifier.repeats ∨ count ≤ 1) ∧
      Occurs once count c children d := by
  have many : quantifier.repeats → ((repeated once c).andThen fun r =>
      if quantifier.least ≤ r.1 then .succeed r.2 else .fail).Gives (some (children, d)) →
      ∃ count, quantifier.least ≤ count ∧ (quantifier.repeats ∨ count ≤ 1) ∧
        Occurs once count c children d := by
    intro repeats given
    obtain ⟨⟨count, found⟩, rest, given⟩ := Attempted.gives_andThen.1 given
    split_ifs at given with enough
    · obtain rfl := Option.some.inj (Attempted.gives_succeed.1 given)
      exact ⟨count, enough, .inl repeats, occurs_repeated rest⟩
    · simp at given
  unfold quantified at given
  split at given
  · exact ⟨1, by decide, .inr (by decide), .one given⟩
  · rcases Attempted.gives_orElse.1 given with present | ⟨_, given⟩
    · exact ⟨1, by decide, .inr (by decide), .one present⟩
    · obtain ⟨rfl, rfl⟩ := by simpa using given
      exact ⟨0, by decide, .inr (by decide), .zero _⟩
  · exact many rfl given
  · exact many rfl given

end Occurs

section Gives

variable {ctx : Context} {c d : Cursor} {children : List Child}

/-- An occurrence is its slot and its term.  Suppressed, it leaves no children. -/
theorem gives_once {i : Item Grammar.Term} :
    (once ctx i c).Gives (some (children, d)) ↔
      ∃ before e inside, (ctx.slot i.slot c).Gives (some (before, e)) ∧
        (term ctx i.label i.term e).Gives (some (inside, d)) ∧
        children = if i.suppressed then [] else before ++ inside := by
  rw [once, Attempted.gives_andThen]
  constructor
  · rintro ⟨⟨before, e⟩, slotted, given⟩
    obtain ⟨⟨inside, d'⟩, matched, same⟩ := Attempted.gives_map.1 given
    obtain ⟨rfl, rfl⟩ := Prod.mk.inj same
    exact ⟨before, e, inside, slotted, matched, rfl⟩
  · rintro ⟨before, e, inside, slotted, matched, rfl⟩
    exact ⟨(before, e), slotted, Attempted.gives_map.2 ⟨(inside, d), matched, rfl⟩⟩

/-- An item is as many occurrences as its quantifier asks for. -/
theorem exists_of_item {i : Item Grammar.Term} (given : (item ctx i c).Gives (some (children, d))) :
    ∃ count, i.quantifier.least ≤ count ∧ (i.quantifier.repeats ∨ count ≤ 1) ∧
      Occurs (once ctx i) count c children d := by
  rw [item_eq] at given
  exact exists_of_quantified given

theorem gives_nil : (items ctx [] c).Gives (some (children, d)) ↔ children = [] ∧ d = c := by
  rw [items, Attempted.gives_succeed, Option.some.injEq, Prod.mk.injEq]

theorem gives_cons {i : Item Grammar.Term} {is : List (Item Grammar.Term)} :
    (items ctx (i :: is) c).Gives (some (children, d)) ↔
      ∃ front e back, (item ctx i c).Gives (some (front, e)) ∧
        (items ctx is e).Gives (some (back, d)) ∧ children = front ++ back := by
  rw [items]
  exact gives_append

/-! ## Productions -/

theorem gives_production {p : Production Grammar.Term} :
    (production ctx p c).Gives (some (children, d)) ↔
      ∃ front e back, (items ctx p.items c).Gives (some (front, e)) ∧
        (ctx.slot p.trailing e).Gives (some (back, d)) ∧ children = front ++ back := by
  obtain ⟨is, trailing⟩ := p
  rw [production]
  exact gives_append

end Gives

/-- The first production of a list that matches at a place. -/
def First (ctx : Context) (ps : List (Production Grammar.Term)) (p : Production Grammar.Term)
    (c : Cursor) : Prop :=
  ∃ front back, ps = front ++ p :: back ∧ ∀ q ∈ front, (production ctx q c).Gives none

theorem exists_first {ctx : Context} {ps : List (Production Grammar.Term)} {c : Cursor}
    {found : Found} (given : (productions ctx ps c).Gives (some found)) :
    ∃ p, First ctx ps p c ∧ (production ctx p c).Gives (some found) := by
  induction ps with
  | nil => simp [productions] at given
  | cons p ps ih =>
    rw [productions] at given
    rcases Attempted.gives_orElse.1 given with here | ⟨rejected, given⟩
    · exact ⟨p, ⟨[], ps, rfl, List.forall_mem_nil _⟩, here⟩
    · obtain ⟨q, ⟨front, back, rfl, others⟩, here⟩ := ih given
      exact ⟨q, ⟨p :: front, back, rfl, List.forall_mem_cons.2 ⟨rejected, others⟩⟩, here⟩

theorem First.single (ctx : Context) (p : Production Grammar.Term) (c : Cursor) : First ctx [p] p c :=
  ⟨[], [], rfl, List.forall_mem_nil _⟩

theorem First.mem {ctx : Context} {ps : List (Production Grammar.Term)} {p : Production Grammar.Term}
    {c : Cursor} (first : First ctx ps p c) : p ∈ ps := by
  obtain ⟨front, back, rfl, _⟩ := first
  simp

/-! ## Rules -/

/-- A reference to a rule leaves one node, the tree of the rule. -/
theorem gives_node {ctx : Context} {label : Option String} {id : Nat} {c d : Cursor}
    {children : List Child} :
    (term ctx label (.rule id) c).Gives (some (children, d)) ↔
      ∃ tree, (ctx.call id ctx.inTrivia ctx.stack c).Gives (some (tree, d)) ∧
        children = [.node label tree] := by
  rw [term, Attempted.gives_map]
  constructor
  · rintro ⟨⟨tree, d'⟩, called, same⟩
    obtain ⟨rfl, rfl⟩ := Prod.mk.inj same
    exact ⟨tree, called, rfl⟩
  · rintro ⟨tree, called, rfl⟩
    exact ⟨(tree, d), called, rfl⟩

/-- A rule that is being matched. -/
structure Site where
  rule : Nat
  /-- How deep rules may nest inside it. -/
  depth : Nat
  /-- The rules being matched, this one included. -/
  stack : RuleStack
  inTrivia : Bool

/-- What matching at a site depends on. -/
def Site.context (g : Grammar) (site : Site) : Context :=
  { grammar := g, call := Matching.rule g site.depth, stack := site.stack, inTrivia := site.inTrivia }

/-- The site of a rule that is matched from a place on. -/
def Site.of (g : Grammar) (id depth : Nat) (inTrivia : Bool) (stack : RuleStack) (c : Cursor) : Site :=
  ⟨id, depth, (id, c.offset) :: stack, inTrivia || g.isTrivia id⟩

section Rules

variable {g : Grammar} {depth id : Nat} {inTrivia : Bool} {stack : RuleStack} {c d : Cursor} {tree : Tree}

/-- No rule matches if rules may not nest. -/
theorem not_gives_rule_zero : ¬ (rule g 0 id inTrivia stack c).Gives (some (tree, d)) := by
  rintro ⟨_, given⟩
  cases given

/-- A rule matches by the first of its productions that does. -/
theorem exists_of_rule (given : (rule g (depth + 1) id inTrivia stack c).Gives (some (tree, d))) :
    ∃ r p children, g.rules[id]? = some r ∧
      First ((Site.of g id depth inTrivia stack c).context g) r.productions p c ∧
      (production ((Site.of g id depth inTrivia stack c).context g) p c).Gives (some (children, d)) ∧
      tree = ⟨id, c.spanTo d, children⟩ := by
  rw [rule] at given
  split at given
  · simp at given
  · next r found =>
    obtain ⟨⟨children, e⟩, matched, same⟩ := Attempted.gives_map.1 given
    obtain ⟨rfl, rfl⟩ := Prod.mk.inj same
    obtain ⟨p, first, given⟩ := exists_first matched
    exact ⟨r, p, children, found, first, given, rfl⟩

end Rules

/-- A text is parsed where the rule matches all of it. -/
theorem exists_of_parse {g : Grammar} {name source : String} {tree : Tree}
    (parsed : g.parse name source = .ok tree) :
    ∃ id d, g.ruleId? name = some id ∧ d.rest = [] ∧
      (rule g (depthBound g source) id false [] (.start source)).Gives (some (tree, d)) := by
  unfold Grammar.parse at parsed
  split at parsed
  · cases parsed
  · next id known =>
    dsimp only at parsed
    split_ifs at parsed
    unfold Grammar.parseRule at parsed
    split at parsed
    · cases parsed
    · next a matched =>
      split at parsed
      · cases parsed
      · next tree' d value =>
        split_ifs at parsed with done
        obtain rfl := Except.ok.inj parsed
        exact ⟨id, d, known, List.isEmpty_iff.1 done, a.raised, by rw [matched, ← value]⟩

end Matching

end Reprint
