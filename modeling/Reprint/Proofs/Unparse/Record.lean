import Mathlib.Data.List.Chain
import Reprint.Proofs.Assembly
import Reprint.Proofs.Doc.Script
import Reprint.Proofs.Parse.Tiling
import Reprint.Proofs.Unparse.Along

/-!
# The walk writes down the leaves

Along a production the walk takes the children of a node in order.  The pieces
that it adds show the characters of the leaves that it has taken, no more and no
less (`Records`), as long as nothing that is looked at gets lost with dropped
trivia.  What the pieces look like is left open: `Suits` says what a style and a
grammar have to guarantee for it.
-/

namespace Reprint.Unparse

/-! ## Records -/

/-- The pieces of an assembly show the characters of the leaves that were used,
and are such as `Fine` says of pieces inside or outside trivia. -/
structure Records (keep : Char → Bool) (source : String) (Fine : Bool → Doc → Prop) (inTrivia : Bool)
    (used : List Child) (a : Assembly) : Prop where
  script : a.docs.flatMap (Doc.script keep) = (used.flatMap (Child.chars source)).filter keep
  fine : ∀ d ∈ a.docs, Fine inTrivia d
  brackets : ∀ b ∈ a.brackets, ∀ pieces, (∀ d ∈ pieces, Fine inTrivia d) →
    Fine inTrivia (b.wrap pieces)
  last : a.lastWasTrivia → inTrivia = false ∧ ∃ c ∈ used.getLast?, c.isTrivia
  empty : a.docs = [] → used = []

theorem script_wrap (keep : Char → Bool) (b : Bracket) (pieces : List Doc) :
    (b.wrap pieces).script keep = pieces.flatMap (Doc.script keep) := by
  cases b with
  | group => rw [Bracket.wrap, Doc.script_group, Doc.script_concat]
  | indent amount => rw [Bracket.wrap, Doc.script_indent, Doc.script_concat]
  | join separator =>
    rw [Bracket.wrap, Doc.script_join, Doc.flatMap_script_items, Doc.script_concat]

namespace Records

variable {keep : Char → Bool} {source : String} {Fine : Bool → Doc → Prop} {inTrivia : Bool}
  {used : List Child} {a b : Assembly}

theorem start : Records keep source Fine inTrivia [] {} :=
  ⟨rfl, List.forall_mem_nil _, List.forall_mem_nil _, nofun, fun _ => rfl⟩

/-- A piece for the leaves behind. -/
theorem push (records : Records keep source Fine inTrivia used a) (d : Doc) (trivia : Bool) (more : List Child)
    (fine : Fine inTrivia d) (script : d.script keep = (more.flatMap (Child.chars source)).filter keep)
    (last : trivia → inTrivia = false ∧ ∃ c ∈ (used ++ more).getLast?, c.isTrivia) :
    Records keep source Fine inTrivia (used ++ more) (a.push d trivia) where
  script := by
    rw [Assembly.docs_push, List.flatMap_append, records.script, List.flatMap_singleton, script,
      List.flatMap_append, List.filter_append]
  fine := by
    rw [Assembly.docs_push]
    exact List.forall_mem_append.2 ⟨records.fine, List.forall_mem_singleton.2 fine⟩
  brackets := by
    rw [Assembly.brackets_push]
    exact records.brackets
  last flag := last (Assembly.lastWasTrivia_push a d trivia ▸ flag)
  empty none := by simp at none

/-- A control node shows nothing of the source. -/
theorem addControl (records : Records keep source Fine inTrivia used a) {d : Doc} (fine : Fine inTrivia d)
    (script : d.script keep = []) : Records keep source Fine inTrivia used (a.addControl d) := by
  have pushed := records.push d a.lastWasTrivia [] fine script
  rw [List.append_nil] at pushed
  exact pushed records.last

theorem openBracket (records : Records keep source Fine inTrivia used a) {bracket : Bracket}
    (fine : ∀ pieces, (∀ d ∈ pieces, Fine inTrivia d) → Fine inTrivia (bracket.wrap pieces)) :
    Records keep source Fine inTrivia used (a.openBracket bracket) where
  script := by rw [Assembly.docs_openBracket, records.script]
  fine := by
    rw [Assembly.docs_openBracket]
    exact records.fine
  brackets := by
    rw [Assembly.brackets_openBracket]
    exact List.forall_mem_cons.2 ⟨fine, records.brackets⟩
  last := nofun
  empty := by
    rw [Assembly.docs_openBracket]
    exact records.empty

theorem closeBracket (records : Records keep source Fine inTrivia used a) {name : BracketName}
    (closed : a.closeBracket name = .ok b) : Records keep source Fine inTrivia used b := by
  obtain ⟨front, inner, bracket, before, behind, brackets, flag⟩ :=
    Assembly.exists_of_closeBracket closed
  have fine := records.fine
  rw [before] at fine
  obtain ⟨outer, inside⟩ := List.forall_mem_append.1 fine
  have wrapped := records.brackets
  rw [brackets] at wrapped
  obtain ⟨own, others⟩ := List.forall_mem_cons.1 wrapped
  refine ⟨?_, ?_, others, ?_, ?_⟩
  · rw [behind, ← records.script, before, List.flatMap_append, List.flatMap_append,
      List.flatMap_singleton, script_wrap]
  · rw [behind]
    exact List.forall_mem_append.2 ⟨outer, List.forall_mem_singleton.2 (own inner inside)⟩
  · rw [flag]
    exact records.last
  · rw [behind]
    intro none
    simp at none

/-- The record of a child's tree is merged behind. -/
theorem merge (records : Records keep source Fine inTrivia used a) {inner : Bool} {more : List Child}
    {other : Assembly} (record : Records keep source Fine inner more other)
    (outward : ∀ d, Fine inner d → Fine inTrivia d) (mode : inner = false → inTrivia = false)
    (merged : a.merge other = .ok b) : Records keep source Fine inTrivia (used ++ more) b := by
  obtain ⟨_, pieces, brackets, flag⟩ := Assembly.exists_of_merge merged
  refine ⟨?_, ?_, ?_, ?_, ?_⟩
  · rw [pieces, List.flatMap_append, records.script, record.script, List.flatMap_append,
      List.filter_append]
  · rw [pieces]
    exact List.forall_mem_append.2 ⟨records.fine, fun d member => outward d (record.fine d member)⟩
  · rw [brackets]
    exact records.brackets
  · rw [flag]
    split_ifs with none
    · rw [record.empty none, List.append_nil]
      exact records.last
    · intro own
      obtain ⟨outside, c, member, trivia⟩ := record.last own
      exact ⟨mode outside, c, List.mem_getLast?_append_of_mem_getLast? member, trivia⟩
  · rw [pieces]
    intro none
    obtain ⟨first, second⟩ := List.append_eq_nil_iff.1 none
    rw [records.empty first, record.empty second, List.append_nil]

end Records

/-! ## What a style and a grammar guarantee -/

/-- What may stand in a slot inside trivia is not looked at, and the slot is fine. -/
def InnerSlot (w : Walk) (keep : Char → Bool) (Fine : Doc → Prop) (rule : String) (sep : Separator) :
    Prop :=
  sep ≠ .none → Fine (w.style.usualSlot rule sep) ∧ ∀ c, Text.isBlank c → keep c = false

/-- All pieces that a walk adds inside and outside trivia are fine, nothing is
left out or replaced, and kept trivia shows what it showed when it was retraced.
`Inner` holds of the rules that may be met inside trivia. -/
structure Suits (w : Walk) (keep : Char → Bool) (Fine : Bool → Doc → Prop) (Inner : Nat → Prop) :
    Prop where
  unsuppressed : w.grammar.Unsuppressed
  normal : ∀ rule label literal, w.style.treatment rule label literal = .normal
  text : ∀ inTrivia s, Fine inTrivia (.text s)
  comment : ∀ s, Fine true (.comment s)
  outward : ∀ d, Fine true d → Fine false d
  spacing : ∀ rule anchor d, .spacing d ∈ (w.style.entryAt rule anchor).directives →
    Fine false (.before d) ∧ Fine false (.after d)
  bracket : ∀ rule anchor b, .opening b ∈ (w.style.entryAt rule anchor).directives →
    ∀ pieces, (∀ d ∈ pieces, Fine false d) → Fine false (b.wrap pieces)
  slot : ∀ rule sep, sep ≠ .none → Fine false (w.style.usualSlot rule sep)
  kept : ∀ pieces required, (∀ d ∈ pieces, Fine true d) →
    Fine false (.triviaSlot (.concat pieces) required) ∧
      (Doc.triviaSlot (.concat pieces) required).script keep = pieces.flatMap (Doc.script keep)
  trivia : ∀ id, w.grammar.trivia = some id → Inner id
  refers : ∀ id other, Inner id → w.grammar.Refers id other → Inner other
  inner : ∀ id, Inner id → ∀ r, w.grammar.rules[id]? = some r →
    Throughout (fun p => InnerSlot w keep (Fine true) r.name p.trailing ∧
      ∀ i ∈ p.items, InnerSlot w keep (Fine true) r.name i.slot) r.productions

/-- No trivia that is looked at is dropped: it shows nothing, or all of it is
kept and no two pieces of trivia are neighbours. -/
def Retained (w : Walk) (keep : Char → Bool) (leaves : List Child) : Prop :=
  (∀ c ∈ leaves, c.isTrivia → (c.chars w.source).filter keep = []) ∨
    (w.style.retention = .all ∧ leaves.IsChain fun c d => ¬ (c.isTrivia ∧ d.isTrivia))

/-! ## Steps inside a rule -/

section Steps

variable {w : Walk} {keep : Char → Bool} {Fine : Bool → Doc → Prop} {Inner : Nat → Prop}

/-- The trees of the children are recorded, as far as the walk looks at them. -/
def Recorded (w : Walk) (keep : Char → Bool) (Fine : Bool → Doc → Prop) (Inner : Nat → Prop)
    (inTrivia : Bool) : Child → Prop
  | .token .. => True
  | .node _ body => (inTrivia → Inner body.rule) →
    (w.node body inTrivia).Holds True
      (Records keep w.source Fine (inTrivia || w.grammar.isTrivia body.rule) body.leaves)
  | .trivia label body =>
    (w.node body true).Holds True (Records keep w.source Fine true body.leaves) ∧
      (Child.trivia label body).chars w.source = body.leaves.flatMap (Child.chars w.source)

/-- Trivia that is dropped shows nothing. -/
theorem filter_chars_of_dropped {front rest : List Child} {label : Option String} {body : Tree}
    {a : Assembly} {rule : String} (retained : Retained w keep (leavesAll (front ++ .trivia label body :: rest)))
    (records : Records keep w.source Fine false (leavesAll front) a)
    (dropped : (w.context rule false).keeps a.lastWasTrivia body = .ok false) :
    ((Child.trivia label body).chars w.source).filter keep = [] := by
  have split : leavesAll (front ++ .trivia label body :: rest)
      = leavesAll front ++ .trivia label body :: leavesAll rest := by
    rw [leavesAll_append, leavesAll]
    rfl
  rw [split] at retained
  rcases retained with unseen | ⟨all, chain⟩
  · exact unseen _ (List.mem_append_right _ List.mem_cons_self) rfl
  · have flag : a.lastWasTrivia := by
      by_contra unflagged
      simp only [Context.keeps, Walk.context, all, if_neg unflagged] at dropped
      cases dropped
    obtain ⟨_, c, member, trivia⟩ := records.last flag
    have apart := (List.isChain_append.1 chain).2.2 c member _ rfl
    exact absurd ⟨trivia, rfl⟩ apart

/-- The leaves of a list of children with one more. -/
theorem leavesAll_concat (front : List Child) (c : Child) :
    leavesAll (front ++ [c]) = leavesAll front ++ c.leaves := by
  rw [leavesAll_append, leavesAll, leavesAll, List.append_nil]

theorem exists_getLast?_trivia (used : List Child) (label : Option String) (body : Tree) :
    ∃ c ∈ (used ++ [Child.trivia label body]).getLast?, c.isTrivia :=
  ⟨.trivia label body, by simp, rfl⟩

variable (suits : Suits w keep Fine Inner)
include suits

omit suits in
/-- Blank text that a slot takes inside trivia is not looked at. -/
theorem filter_chars_of_blank {rule : String} {sep : Separator} {span : Span} (some : sep ≠ .none)
    (inner : InnerSlot w keep (Fine true) rule sep) {inTrivia : Bool}
    (isBlank : (w.context rule inTrivia).isBlankToken (.token none span)) :
    ((Child.token none span).chars w.source).filter keep = [] := by
  unfold Context.isBlankToken at isBlank
  dsimp only at isBlank
  split at isBlank
  · next text found =>
    have chars : (Child.token none span).chars w.source = text.toList := Child.slice?_eq_some found
    rw [chars, List.filter_eq_nil_iff]
    intro c member
    have own := List.all_eq_true.1 (Bool.and_eq_true_iff.1 isBlank).2 c member
    simp [(inner some).2 c own]
  · cases isBlank

theorem records_token {rule : String} {inTrivia : Bool} {label : Option String} {span : Span}
    {text : String} {used : List Child} {a : Assembly} (found : span.slice? w.source = some text)
    (records : Records keep w.source Fine inTrivia used a) :
    Records keep w.source Fine inTrivia (used ++ [.token label span])
      (a.addContent ((w.context rule inTrivia).token text)) := by
  have chars : (Child.token label span).chars w.source = text.toList := Child.slice?_eq_some found
  refine records.push _ false _ ?_ ?_ nofun
  · unfold Context.token
    split_ifs with comment
    · have inside : inTrivia = true := (Bool.and_eq_true_iff.1 comment).1
      exact inside ▸ suits.comment text
    · exact suits.text inTrivia text
  · rw [List.flatMap_singleton, chars]
    unfold Context.token
    split_ifs
    · exact Doc.script_leaf keep (.comment text)
    · exact Doc.script_leaf keep (.text text)

theorem records_kept {label : Option String} {body : Tree} {used : List Child} {a inner : Assembly}
    {d : Doc} {required : Bool} (recorded : Recorded w keep Fine Inner false (.trivia label body))
    (walked : w.node body true = .fits inner) (finished : inner.finish = .ok d)
    (records : Records keep w.source Fine false used a) :
    Records keep w.source Fine false (used ++ [.trivia label body])
      (a.addTrivia (.triviaSlot d required)) := by
  obtain ⟨record, covered⟩ := recorded
  rw [walked] at record
  obtain ⟨_, rfl⟩ := Assembly.finish_eq_ok.1 finished
  obtain ⟨fine, script⟩ := suits.kept inner.docs required record.fine
  refine records.push _ true _ fine ?_ fun _ => ⟨rfl, exists_getLast?_trivia used label body⟩
  rw [script, record.script, List.flatMap_singleton, covered]

theorem records_merge {inTrivia : Bool} {label : Option String} {body : Tree} {used : List Child}
    {a inner b : Assembly} (recorded : Recorded w keep Fine Inner inTrivia (.node label body))
    (known : inTrivia → Inner body.rule) (walked : w.node body inTrivia = .fits inner)
    (merged : a.merge inner = .ok b) (records : Records keep w.source Fine inTrivia used a) :
    Records keep w.source Fine inTrivia (used ++ body.leaves) b := by
  have record := recorded known
  rw [walked] at record
  refine records.merge record ?_ ?_ merged
  · intro d fine
    cases inTrivia with
    | true => exact fine
    | false =>
      cases trivia : w.grammar.isTrivia body.rule with
      | true => exact suits.outward d (by simpa [trivia] using fine)
      | false => simpa [trivia] using fine
  · intro outside
    exact (Bool.or_eq_false_iff.1 outside).1

theorem records_direct {rule : String} {side : Side} {selector : Selector} {d : Directive}
    {used : List Child} {a b : Assembly} (member : d ∈ (w.context rule false).directives side selector)
    (done : Context.direct side true a d = .ok b)
    (records : Records keep w.source Fine false used a) : Records keep w.source Fine false used b := by
  cases d with
  | spacing d =>
    obtain ⟨before, after⟩ := suits.spacing rule _ d member
    obtain rfl := Except.ok.inj done
    cases side with
    | before => exact records.addControl before rfl
    | after => exact records.addControl after rfl
  | opening bracket =>
    obtain rfl := Except.ok.inj done
    exact records.openBracket (suits.bracket rule _ bracket member)
  | closing name => exact records.closeBracket done

/-! ## Whole trees -/

/-- Whatever the walk does next inside a rule is recorded. -/
theorem carried_records {children : List Child} (rule : String) {inTrivia : Bool}
    (retained : inTrivia = false → Retained w keep (leavesAll children))
    (recorded : ∀ c ∈ children, Recorded w keep Fine Inner inTrivia c) :
    Carried w rule inTrivia (fun sep => inTrivia → InnerSlot w keep (Fine true) rule sep)
      (fun id => inTrivia → Inner id) children
      fun front => Records keep w.source Fine inTrivia (leavesAll front) := by
  have fine : ∀ {sep : Separator}, sep ≠ .none →
      (inTrivia → InnerSlot w keep (Fine true) rule sep) → Fine inTrivia (w.style.usualSlot rule sep) := by
    intro sep some inner
    cases inTrivia with
    | true => exact (inner rfl some).1
    | false => exact suits.slot rule sep some
  constructor
  case empty =>
    intro sep front a some inner records
    exact records.addControl (fine some inner) rfl
  case blank =>
    intro sep front rest span a inside some inner split isBlank records
    have unseen := filter_chars_of_blank some (inner inside) isBlank
    rw [leavesAll_concat]
    refine records.push _ _ _ (fine some inner) ?_ fun flag => ?_
    · rw [Child.leaves, List.flatMap_singleton, unseen]
      rfl
    · rw [(records.last flag).1] at inside
      cases inside
  case kept =>
    intro sep front rest label body a inner d outside some split walked finished records
    subst outside
    rw [leavesAll_concat]
    exact records_kept suits (recorded _ (by rw [split]; simp)) walked finished records
  case dropped =>
    intro sep front rest label body a outside some inner split unwanted records
    subst outside
    have seen := retained rfl
    rw [split] at seen
    have unseen := filter_chars_of_dropped seen records unwanted
    rw [leavesAll_concat]
    refine records.push _ _ _ (fine some inner) ?_ fun _ => ⟨rfl, exists_getLast?_trivia _ label body⟩
    rw [Child.leaves, List.flatMap_singleton, unseen]
    rfl
  case token =>
    intro front rest label span text a split found records
    rw [leavesAll_concat]
    exact records_token suits found records
  case node =>
    intro front rest label body a inner b split known walked merged records
    have own : Recorded w keep Fine Inner inTrivia (.node label body) := recorded _ (by rw [split]; simp)
    rw [leavesAll_concat, Child.leaves_node]
    exact records_merge suits own known walked merged records
  case direct =>
    intro outside side selector d front a b member done records
    subst outside
    exact records_direct suits member done records
  case normal => exact fun _ => suits.normal rule

theorem drawn_of_rule {id : Nat} {r : Rule Grammar.Term} (found : w.grammar.rules[id]? = some r)
    {inTrivia : Bool} (inside : inTrivia → Inner id) :
    Throughout (Drawn (fun sep => inTrivia → InnerSlot w keep (Fine true) r.name sep)
      (fun id => inTrivia → Inner id)) r.productions := by
  intro p member
  have shown := suits.unsuppressed.of_getElem? found p member
  refine ⟨fun trivia => (suits.inner id (inside trivia) r found p member).1, ?_⟩
  intro i item
  refine ⟨shown i item, fun trivia => (suits.inner id (inside trivia) r found p member).2 i item, ?_⟩
  intro other refers trivia
  exact suits.refers id other (inside trivia) ⟨r, found, p, member, i, item, refers⟩

/-- A node is recorded if its children are. -/
theorem records_node (body : Tree) (inTrivia : Bool)
    (retained : (inTrivia || w.grammar.isTrivia body.rule) = false → Retained w keep body.leaves)
    (inside : (inTrivia || w.grammar.isTrivia body.rule) → Inner body.rule)
    (recorded : ∀ c ∈ body.children,
      Recorded w keep Fine Inner (inTrivia || w.grammar.isTrivia body.rule) c) :
    (w.node body inTrivia).Holds True
      (Records keep w.source Fine (inTrivia || w.grammar.isTrivia body.rule) body.leaves) := by
  let R (front : List Child) : Assembly → Prop :=
    Records keep w.source Fine (inTrivia || w.grammar.isTrivia body.rule) (leavesAll front)
  exact holds_node (R := R) .start fun r found =>
    ⟨_, _, carried_records suits r.name retained recorded, drawn_of_rule suits found inside⟩

omit suits in
theorem Retained.of_part {leaves leaves' : List Child} (retained : Retained w keep leaves)
    (part : leaves' <:+: leaves) : Retained w keep leaves' := by
  rcases retained with unseen | ⟨all, chain⟩
  · exact .inl fun c member => unseen c (part.subset member)
  · exact .inr ⟨all, chain.infix part⟩

/-- The trees of all children are recorded. -/
theorem recorded_of_placed {c : Child} (inTrivia : Bool) (placed : c.Placed w.grammar w.source)
    (retained : inTrivia = false → Retained w keep c.leaves) :
    Recorded w keep Fine Inner inTrivia c := by
  have deeper : ∀ {body : Tree} {x : Child}, x ∈ body.children → x.leaves <:+: body.leaves := by
    intro body x member
    obtain ⟨front, back, split⟩ := List.append_of_mem member
    rw [Node.leaves, split, leavesAll_append, leavesAll]
    exact ⟨leavesAll front, leavesAll back, List.append_assoc ..⟩
  induction c generalizing inTrivia with
  | token => trivial
  | node label body ih =>
    intro inside
    obtain ⟨start, stop, within, laid⟩ := placed
    have kept : (inTrivia || w.grammar.isTrivia body.rule) = false → Retained w keep body.leaves := by
      intro outside
      rw [← Child.leaves_node label body]
      exact retained (Bool.or_eq_false_iff.1 outside).1
    refine records_node suits body inTrivia kept ?_ ?_
    · intro inner
      rcases Bool.or_eq_true_iff.1 inner with own | trivia
      · exact inside own
      · exact suits.trivia _ (beq_iff_eq.1 trivia)
    · intro x member
      exact ih x member _ (laid.placed within x member)
        fun outside => (kept outside).of_part (deeper member)
  | trivia label body ih =>
    refine ⟨?_, placed.chars_trivia⟩
    obtain ⟨known, start, stop, within, span, laid⟩ := placed
    have record := records_node suits body true (fun outside => Bool.noConfusion outside)
      (fun _ => suits.trivia _ known)
      fun x member => ih x member _ (laid.placed within x member) fun outside => Bool.noConfusion outside
    exact record

/-- The document of a tree shows the characters of its leaves. -/
theorem records_tree {tree : Tree} {c d : Cursor} (within : c.In w.source)
    (laid : Laid w.grammar c tree.children d) (retained : Retained w keep tree.leaves) :
    (w.node tree false).Holds True
      (Records keep w.source Fine (w.grammar.isTrivia tree.rule) tree.leaves) := by
  have placed : (Child.node none tree).Placed w.grammar w.source := ⟨c, d, within, laid⟩
  have recorded := recorded_of_placed suits false placed
    fun _ => (Child.leaves_node none tree).symm ▸ retained
  exact recorded nofun

end Steps

end Reprint.Unparse
