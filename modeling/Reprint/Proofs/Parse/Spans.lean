import Reprint.Proofs.Parse.Tiling

/-!
# Where the parts of a parsed tree stand

Whatever the grammar, the children that a match leaves stand one behind the other
between the place where it began and the place behind it.  A suppressed item
leaves a gap.  The same holds inside every child, so the spans of a tree say where
its parts stand, without looking at the text: in order, apart from each other and
inside the tree (`spans_of_parse`).  Without suppressed items there are no gaps.

What is given up on the way leaves nothing behind, for a failure has neither
children nor a place: `Spread` only speaks of successes, and it is carried through
the functions of the matcher in the order in which they call each other.
-/

namespace Reprint

/-! ## Children with gaps between them -/

/-- The children stand one behind the other between two places, with gaps between
them, and so do the children of each of them.  What stood in a slot is not empty. -/
inductive Spread : Cursor → List Child → Cursor → Prop
  | nil (c : Cursor) : Spread c [] c
  | gap {c d e : Cursor} {text : List Char} {rest : List Child} :
      c.Ahead text d → Spread d rest e → Spread c rest e
  | token {label : Option String} {c d e : Cursor} {text : List Char} {rest : List Child} :
      c.Ahead text d → Spread d rest e → Spread c (.token label (c.spanTo d) :: rest) e
  | node {label : Option String} {id : Nat} {c d e : Cursor} {inner rest : List Child} :
      Spread c inner d → Spread d rest e →
      Spread c (.node label ⟨id, c.spanTo d, inner⟩ :: rest) e
  | trivia {label : Option String} {id : Nat} {c d e : Cursor} {inner rest : List Child} :
      c.offset ≠ d.offset → Spread c inner d → Spread d rest e →
      Spread c (.trivia label ⟨id, c.spanTo d, inner⟩ :: rest) e

namespace Spread

variable {c d e : Cursor} {xs ys : List Child}

theorem append (first : Spread c xs d) (second : Spread d ys e) : Spread c (xs ++ ys) e := by
  induction first with
  | nil => exact second
  | gap ahead _ ih => exact .gap ahead (ih second)
  | token ahead _ ih => exact .token ahead (ih second)
  | node inner _ _ ih => exact .node inner (ih second)
  | trivia moved inner _ _ ih => exact .trivia moved inner (ih second)

theorem exists_ahead (spread : Spread c xs d) : ∃ text, c.Ahead text d := by
  induction spread with
  | nil c => exact ⟨[], .refl c⟩
  | gap ahead _ ih | token ahead _ ih =>
    obtain ⟨more, further⟩ := ih
    exact ⟨_, ahead.trans further⟩
  | node _ _ inside ih | trivia _ _ _ inside ih =>
    obtain ⟨text, ahead⟩ := inside
    obtain ⟨more, further⟩ := ih
    exact ⟨_, ahead.trans further⟩

/-- Children that are left out leave a gap. -/
theorem suppress (spread : Spread c xs d) : Spread c [] d := by
  obtain ⟨text, ahead⟩ := spread.exists_ahead
  exact .gap ahead (.nil d)

theorem single_token {label : Option String} {text : List Char} (ahead : c.Ahead text d) :
    Spread c [.token label (c.spanTo d)] d := .token ahead (.nil d)

end Spread

/-! ## Matching spreads -/

namespace Matching

/-- A tree that a rule matched stands between the two places, and so do its children. -/
def CallSpreads (call : Nat → Bool → RuleStack → Cursor → Attempted (Tree × Cursor)) : Prop :=
  ∀ {id : Nat} {inTrivia : Bool} {stack : RuleStack} {c d : Cursor} {tree : Tree},
    (call id inTrivia stack c).Gives (some (tree, d)) →
    tree.span = c.spanTo d ∧ Spread c tree.children d

/-- What an attempt finds stands between the two places. -/
def Spreads (attempt : Cursor → Attempted Found) : Prop :=
  ∀ {c d : Cursor} {children : List Child}, (attempt c).Gives (some (children, d)) → Spread c children d

section Spreads

variable {ctx : Context}

theorem spreads_slot (calls : CallSpreads ctx.call) (sep : Separator) : Spreads (ctx.slot sep) := by
  intro c d children given
  cases slotTakes_of_gives given with
  | tight | noBlanks | untold | noTrivia => exact .nil c
  | blanks => exact .single_token (Cursor.ahead_advance _ _)
  | @trivia _ _ tree _ _ _ _ called nonempty =>
    obtain ⟨rule, span, inner⟩ := tree
    obtain ⟨rfl, inside⟩ := calls called
    exact .trivia (fun same => nonempty (beq_iff_eq.2 same)) inside (.nil d)

theorem spreads_literal (label : Option String) (text : String) : Spreads (ctx.literal label text) := by
  intro c d children given
  obtain ⟨-, rfl, rfl⟩ := gives_literal.1 given
  exact .single_token (Cursor.ahead_advance _ _)

theorem spreads_pattern (label : Option String) (p : Pattern) : Spreads (ctx.pattern label p) := by
  intro c d children given
  obtain ⟨count, -, rfl, rfl⟩ := gives_pattern.1 given
  exact .single_token (Cursor.ahead_advance _ _)

theorem spreads_node (calls : CallSpreads ctx.call) (label : Option String) (id : Nat) :
    Spreads (term ctx label (.rule id)) := by
  intro c d children given
  obtain ⟨⟨rule, span, inner⟩, called, rfl⟩ := gives_node.1 given
  obtain ⟨rfl, inside⟩ := calls called
  exact .node inside (.nil d)

theorem spreads_once (calls : CallSpreads ctx.call) {i : Item Grammar.Term}
    (spreads : Spreads (term ctx i.label i.term)) : Spreads (once ctx i) := by
  intro c d children given
  obtain ⟨before, e, inside, slotted, matched, rfl⟩ := gives_once.1 given
  have all := (spreads_slot calls i.slot slotted).append (spreads matched)
  split_ifs
  · exact all.suppress
  · exact all

theorem spread_of_occurs {attempt : Cursor → Attempted Found} (spreads : Spreads attempt) {count : Nat}
    {c d : Cursor} {children : List Child} (occurs : Occurs attempt count c children d) :
    Spread c children d := by
  induction occurs with
  | zero c => exact .nil c
  | succ first _ ih => exact (spreads first).append ih

theorem spreads_item_of_once {i : Item Grammar.Term} (spreads : Spreads (once ctx i)) :
    Spreads (item ctx i) := by
  intro c d children given
  obtain ⟨count, -, -, occurs⟩ := exists_of_item given
  exact spread_of_occurs spreads occurs

theorem spreads_items {is : List (Item Grammar.Term)} (spreads : ∀ i ∈ is, Spreads (item ctx i)) :
    Spreads (items ctx is) := by
  induction is with
  | nil =>
    intro c d children given
    obtain ⟨rfl, rfl⟩ := gives_nil.1 given
    exact .nil d
  | cons i is ih =>
    intro c d children given
    obtain ⟨first, others⟩ := List.forall_mem_cons.1 spreads
    obtain ⟨front, e, back, one, rest, rfl⟩ := gives_cons.1 given
    exact (first one).append (ih others rest)

/-- A production spreads what the terms of its items spread. -/
theorem spreads_production (calls : CallSpreads ctx.call) {p : Production Grammar.Term}
    (spreads : ∀ i ∈ p.items, Spreads (term ctx i.label i.term)) : Spreads (production ctx p) := by
  intro c d children given
  obtain ⟨front, e, back, body, slotted, rfl⟩ := gives_production.1 given
  have each : ∀ i ∈ p.items, Spreads (item ctx i) := fun i member =>
    spreads_item_of_once (spreads_once calls (spreads i member))
  exact (spreads_items each body).append (spreads_slot calls p.trailing slotted)

theorem spreads_productions {ps : List (Production Grammar.Term)}
    (spreads : ∀ p ∈ ps, Spreads (production ctx p)) : Spreads (productions ctx ps) := by
  intro c d children given
  obtain ⟨p, first, given⟩ := exists_first given
  exact spreads p first.mem given

theorem spreads_term (calls : CallSpreads ctx.call) (t : Grammar.Term) :
    ∀ label, Spreads (term ctx label t) := by
  induction t using Term.inductionOn with
  | rule id => exact fun label => spreads_node calls label id
  | literal text => exact fun label => spreads_literal label text
  | pattern p => exact fun label => spreads_pattern label p
  | group ps ih =>
    intro label c d children given
    have inner : ∀ p ∈ ps, Spreads (production ctx p) := fun p member =>
      spreads_production calls fun i inside => ih p member i inside i.label
    exact spreads_productions inner given

theorem spreads_item (calls : CallSpreads ctx.call) (i : Item Grammar.Term) : Spreads (item ctx i) :=
  spreads_item_of_once (spreads_once calls (spreads_term calls i.term i.label))

end Spreads

/-- What a rule matches stands between the two places. -/
theorem callSpreads_rule (g : Grammar) (depth : Nat) : CallSpreads (rule g depth) := by
  induction depth with
  | zero =>
    intro id inTrivia stack c d tree given
    exact absurd given not_gives_rule_zero
  | succ depth ih =>
    intro id inTrivia stack c d tree given
    obtain ⟨r, p, children, _, _, matched, rfl⟩ := exists_of_rule given
    exact ⟨rfl, spreads_production ih (fun i _ => spreads_term ih i.term i.label) matched⟩

end Matching

/-- A parsed tree stands between the two ends of the text. -/
theorem spread_of_parse {g : Grammar} {rule source : String} {tree : Tree}
    (parsed : g.parse rule source = .ok tree) :
    ∃ d : Cursor, d.rest = [] ∧ tree.span = (Cursor.start source).spanTo d ∧
      Spread (.start source) tree.children d := by
  obtain ⟨id, d, _, done, given⟩ := Matching.exists_of_parse parsed
  obtain ⟨span, spread⟩ := Matching.callSpreads_rule g _ given
  exact ⟨d, done, span, spread⟩

/-! ## Spans -/

/-- An offset that cuts no character of a text. -/
def Text.IsBoundary (source : String) (offset : Nat) : Prop :=
  ∃ before after, source.toList = before ++ after ∧ offset = Text.width before

/-- Spans that stand in order between two offsets, apart from each other. -/
def Span.InOrder : Nat → List Span → Nat → Prop
  | start, [], stop => start ≤ stop
  | start, s :: rest, stop => start ≤ s.start ∧ s.start ≤ s.stop ∧ InOrder s.stop rest stop

/-- Spans that stand in order between two offsets and leave no gap. -/
def Span.Cover : Nat → List Span → Nat → Prop
  | start, [], stop => start = stop
  | start, s :: rest, stop => start = s.start ∧ s.start ≤ s.stop ∧ Cover s.stop rest stop

theorem Span.InOrder.le {start stop : Nat} {spans : List Span} (order : InOrder start spans stop) :
    start ≤ stop := by
  induction spans generalizing start with
  | nil => exact order
  | cons s rest ih =>
    obtain ⟨behind, ordered, further⟩ := order
    have := ih further
    omega

theorem Span.InOrder.within {start stop : Nat} {spans : List Span} (order : InOrder start spans stop) :
    ∀ s ∈ spans, start ≤ s.start ∧ s.start ≤ s.stop ∧ s.stop ≤ stop := by
  induction spans generalizing start with
  | nil => exact List.forall_mem_nil _
  | cons s rest ih =>
    obtain ⟨behind, ordered, further⟩ := order
    refine List.forall_mem_cons.2 ⟨⟨behind, ordered, further.le⟩, ?_⟩
    intro t member
    have := ih further t member
    omega

theorem Span.InOrder.pairwise {start stop : Nat} {spans : List Span} (order : InOrder start spans stop) :
    spans.Pairwise fun s t => s.stop ≤ t.start := by
  induction spans generalizing start with
  | nil => exact .nil
  | cons s rest ih =>
    obtain ⟨behind, ordered, further⟩ := order
    exact .cons (fun t member => (further.within t member).1) (ih further)

/-- The children of a node stand in order and apart from each other, inside its span. -/
structure Node.Ordered (tree : Tree) : Prop where
  forward : tree.span.start ≤ tree.span.stop
  inside : ∀ x ∈ tree.children,
    tree.span.start ≤ x.span.start ∧ x.span.start ≤ x.span.stop ∧ x.span.stop ≤ tree.span.stop
  apart : (tree.children.map Child.span).Pairwise fun s t => s.stop ≤ t.start

/-- The children of a node cover its span without a gap. -/
def Node.Covered (tree : Tree) : Prop :=
  Span.Cover tree.span.start (tree.children.map Child.span) tree.span.stop

namespace Cursor

theorem Ahead.le {c d : Cursor} {text : List Char} (ahead : c.Ahead text d) : c.offset ≤ d.offset := by
  rw [ahead.2]
  exact Nat.le_add_right _ _

theorem In.isBoundary {source : String} {c : Cursor} (within : c.In source) :
    Text.IsBoundary source c.offset := by
  obtain ⟨before, reached⟩ := within
  exact ⟨before, c.rest, reached.1, reached.2.trans (Nat.zero_add _)⟩

/-- The end of a text is as far on as the text is long. -/
theorem offset_of_done {source : String} {d : Cursor} {text : List Char}
    (ahead : (Cursor.start source).Ahead text d) (done : d.rest = []) :
    text = source.toList ∧ d.offset = Text.width source.toList := by
  have whole : source.toList = text := by
    have split := ahead.1
    rwa [done, List.append_nil] at split
  refine ⟨whole.symm, ?_⟩
  rw [ahead.2, whole]
  exact Nat.zero_add _

end Cursor

namespace Spread

variable {c d : Cursor} {xs : List Child}

theorem le (spread : Spread c xs d) : c.offset ≤ d.offset := by
  obtain ⟨text, ahead⟩ := spread.exists_ahead
  exact ahead.le

theorem inOrder (spread : Spread c xs d) :
    Span.InOrder c.offset (xs.map Child.span) d.offset := by
  -- The span of the first child may begin behind the place: a gap moves the start back.
  have widen : ∀ {start start' stop : Nat} {spans : List Span}, start' ≤ start →
      Span.InOrder start spans stop → Span.InOrder start' spans stop := by
    intro start start' stop spans back order
    cases spans with
    | nil => exact Nat.le_trans back order
    | cons s rest => exact ⟨Nat.le_trans back order.1, order.2⟩
  induction spread with
  | nil c => exact Nat.le_refl _
  | gap ahead _ ih => exact widen ahead.le ih
  | token ahead _ ih => exact ⟨Nat.le_refl _, ahead.le, ih⟩
  | node inner _ _ ih | trivia _ inner _ _ ih => exact ⟨Nat.le_refl _, inner.le, ih⟩

/-- A node whose children are spread between the ends of its span. -/
theorem ordered {id : Nat} (spread : Spread c xs d) : Node.Ordered ⟨id, c.spanTo d, xs⟩ where
  forward := spread.le
  inside := by
    intro x member
    exact spread.inOrder.within x.span (List.mem_map_of_mem member)
  apart := spread.inOrder.pairwise

/-- What holds of every part that is spread: its span cuts no character, its
children are in order, and if it stood in a slot it is not empty. -/
def Fits (source : String) (x : Child) : Prop :=
  Text.IsBoundary source x.span.start ∧ Text.IsBoundary source x.span.stop ∧
    (∀ body ∈ x.body?, body.Ordered) ∧ (x.isTrivia → x.span.start < x.span.stop)

theorem fits {source : String} (spread : Spread c xs d) (within : c.In source) :
    ∀ x ∈ partsAll xs, Fits source x := by
  induction spread with
  | nil => exact List.forall_mem_nil _
  | gap ahead _ ih => exact ih (within.ahead ahead)
  | token ahead _ ih =>
    have beyond := within.ahead ahead
    refine List.forall_mem_append.2 ⟨?_, ih beyond⟩
    refine List.forall_mem_singleton.2 ⟨within.isBoundary, beyond.isBoundary, nofun, nofun⟩
  | @node _ id _ _ _ inner _ spread _ inside ih =>
    obtain ⟨text, ahead⟩ := spread.exists_ahead
    have beyond := within.ahead ahead
    refine List.forall_mem_append.2 ⟨?_, ih beyond⟩
    rw [Child.parts_eq_cons rfl]
    refine List.forall_mem_cons.2 ⟨⟨within.isBoundary, beyond.isBoundary, ?_, nofun⟩, inside within⟩
    rintro _ ⟨⟩
    exact spread.ordered
  | trivia moved spread _ inside ih =>
    obtain ⟨text, ahead⟩ := spread.exists_ahead
    have beyond := within.ahead ahead
    refine List.forall_mem_append.2 ⟨?_, ih beyond⟩
    rw [Child.parts_eq_cons rfl]
    refine List.forall_mem_cons.2 ⟨⟨within.isBoundary, beyond.isBoundary, ?_, fun _ => ?_⟩, inside within⟩
    · rintro _ ⟨⟩
      exact spread.ordered
    · exact Nat.lt_of_le_of_ne ahead.le moved

end Spread

namespace Laid

variable {g : Grammar} {c d : Cursor} {xs : List Child}

theorem cover {source : String} (within : c.In source) (laid : Laid g c xs d) :
    Span.Cover c.offset (xs.map Child.span) d.offset := by
  induction laid with
  | nil c => rfl
  | token ahead _ ih => exact ⟨rfl, ahead.le, ih (within.ahead ahead)⟩
  | node inner _ _ ih | trivia _ inner _ _ ih =>
    have ahead := inner.ahead within
    exact ⟨rfl, ahead.le, ih (within.ahead ahead)⟩

theorem covered {source : String} (within : c.In source) (laid : Laid g c xs d) :
    ∀ x ∈ partsAll xs, ∀ body ∈ x.body?, body.Covered := by
  induction laid with
  | nil => exact List.forall_mem_nil _
  | token ahead _ ih =>
    exact List.forall_mem_append.2 ⟨List.forall_mem_singleton.2 nofun, ih (within.ahead ahead)⟩
  | node inner _ inside ih | trivia _ inner _ inside ih =>
    refine List.forall_mem_append.2 ⟨?_, ih (within.ahead (inner.ahead within))⟩
    rw [Child.parts_eq_cons rfl]
    refine List.forall_mem_cons.2 ⟨?_, inside within⟩
    rintro _ ⟨⟩
    exact inner.cover within

/-- The tokens at every depth are cut from the text one behind the other. -/
theorem exists_texts {source : String} (within : c.In source) (laid : Laid g c xs d) :
    ∃ texts : List String,
      ((partsAll xs).filterMap Child.token?).map (·.slice? source) = texts.map some ∧
        c.Ahead (texts.flatMap String.toList) d := by
  induction laid with
  | nil c => exact ⟨[], rfl, .refl c⟩
  | @token label c d e text rest ahead _ ih =>
    obtain ⟨texts, cut, further⟩ := ih (within.ahead ahead)
    have own := ahead.slice?_spanTo within
    refine ⟨String.ofList text :: texts, ?_, ?_⟩
    · rw [partsAll, Child.parts, List.singleton_append]
      simp only [List.filterMap_cons, Child.token?, List.map_cons, own, cut]
    · rw [List.flatMap_cons, String.toList_ofList]
      exact ahead.trans further
  | node inner _ inside ih | trivia _ inner _ inside ih =>
    obtain ⟨front, cut, ahead⟩ := inside within
    obtain ⟨back, cut', further⟩ := ih (within.ahead ahead)
    refine ⟨front ++ back, ?_, ?_⟩
    · rw [partsAll, Child.parts_eq_cons rfl]
      simp only [List.cons_append, List.filterMap_cons, Child.token?, List.filterMap_append,
        List.map_append]
      exact congrArg₂ _ cut cut'
    · rw [List.flatMap_append]
      exact ahead.trans further

end Laid

/-! ## Parsed trees -/

/-- What the spans of a parsed tree say.  The tree spans the text, no span cuts a
character, the children of every node are in order, apart from each other and
inside the node, and what stood in a slot is not empty.  If no item is suppressed,
the children of every node cover it and the tokens give back the text. -/
theorem spans_of_parse {g : Grammar} {rule source : String} {tree : Tree}
    (parsed : g.parse rule source = .ok tree) :
    tree.span = ⟨0, Text.width source.toList⟩ ∧
      (∀ s ∈ tree.spans, Text.IsBoundary source s.start ∧ Text.IsBoundary source s.stop) ∧
      (∀ t ∈ tree.trees, t.Ordered) ∧
      (∀ x ∈ tree.parts, x.isTrivia → x.span.start < x.span.stop) ∧
      (g.Unsuppressed → (∀ t ∈ tree.trees, t.Covered) ∧
        ∃ texts : List String, tree.tokens.map (·.slice? source) = texts.map some ∧
          String.join texts = source) := by
  obtain ⟨d, done, span, spread⟩ := spread_of_parse parsed
  have start := Cursor.in_start source
  obtain ⟨text, ahead⟩ := spread.exists_ahead
  have fits := spread.fits start
  obtain ⟨_, rightmost⟩ := Cursor.offset_of_done ahead done
  obtain ⟨id, whole, children⟩ := tree
  obtain rfl : whole = _ := span
  refine ⟨by rw [Cursor.spanTo, rightmost]; rfl, ?_, ?_, fun x part => (fits x part).2.2.2, ?_⟩
  · refine List.forall_mem_cons.2 ⟨⟨start.isBoundary, (start.ahead ahead).isBoundary⟩, ?_⟩
    refine List.forall_mem_map.2 fun x part => ?_
    exact ⟨(fits x part).1, (fits x part).2.1⟩
  · refine List.forall_mem_cons.2 ⟨spread.ordered, ?_⟩
    intro body member
    obtain ⟨x, part, inner⟩ := List.mem_filterMap.1 member
    exact (fits x part).2.2.1 body inner
  · intro unsuppressed
    obtain ⟨e, done', laid⟩ := laid_of_parse unsuppressed parsed
    obtain ⟨_, rightmost'⟩ := Cursor.offset_of_done (laid.ahead start) done'
    have cover := laid.cover start
    rw [rightmost', ← rightmost] at cover
    refine ⟨List.forall_mem_cons.2 ⟨cover, ?_⟩, ?_⟩
    · intro body member
      obtain ⟨x, part, inner⟩ := List.mem_filterMap.1 member
      exact laid.covered start x part body inner
    · obtain ⟨texts, cut, further⟩ := laid.exists_texts start
      refine ⟨texts, cut, ?_⟩
      exact String.toList_inj.1 (String.toList_join.trans (Cursor.offset_of_done further done').1)

/-! ## A pair -/

/-- Two letters, the first one of two bytes, with an optional comma between. -/
def pair (suppressed : Bool) : Grammar where
  rules := [
    ⟨"pair", [⟨[
      { term := .literal "é" },
      { slot := .allowed, term := .literal ",", quantifier := .optional, suppressed },
      { slot := .allowed, term := .literal "b" }], .none⟩]⟩,
    ⟨"_", [⟨[{ term := .literal " ", quantifier := .some }], .none⟩]⟩]
  trivia := some 1

/-- The tree of a pair without its comma. -/
def commaOut : Tree :=
  ⟨0, ⟨0, 6⟩, [.token none ⟨0, 2⟩, .trivia none ⟨1, ⟨4, 5⟩, [.token none ⟨4, 5⟩]⟩, .token none ⟨5, 6⟩]⟩

/-- The tree of a pair with its comma. -/
def commaIn : Tree :=
  ⟨0, ⟨0, 6⟩, [.token none ⟨0, 2⟩, .trivia none ⟨1, ⟨2, 3⟩, [.token none ⟨2, 3⟩]⟩, .token none ⟨3, 4⟩,
    .trivia none ⟨1, ⟨4, 5⟩, [.token none ⟨4, 5⟩]⟩, .token none ⟨5, 6⟩]⟩

theorem spans_of_parse_pair :
    (pair true).parse "pair" "é , b" = .ok commaOut ∧ (∀ t ∈ commaOut.trees, t.Ordered) ∧
      (pair false).parse "pair" "é , b" = .ok commaIn ∧ (pair false).Unsuppressed ∧
      (∀ t ∈ commaIn.trees, t.Covered) ∧
      ∃ texts : List String, commaIn.tokens.map (·.slice? "é , b") = texts.map some ∧
        String.join texts = "é , b" := by
  have out : (pair true).parse "pair" "é , b" = .ok commaOut := by with_unfolding_all rfl
  have shown : (pair false).parse "pair" "é , b" = .ok commaIn := by with_unfolding_all rfl
  have unsuppressed : (pair false).Unsuppressed := by
    unfold Grammar.Unsuppressed Throughout
    decide
  exact ⟨out, (spans_of_parse out).2.2.1, shown, unsuppressed,
    (spans_of_parse shown).2.2.2.2 unsuppressed⟩

end Reprint
