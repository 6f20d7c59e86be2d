import Mathlib.Data.List.Permutation
import Reprint.Format
import Reprint.Proofs.Layout.Printing
import Reprint.Proofs.Style
import Reprint.Proofs.Unparse.Plain
import Reprint.Proofs.Unparse.Record

/-!
# Formatting changes white space only

Under a blank style the formatted text and the source have the same characters
but for white space (`filter_inked_format`).  The parser covers the text with the
leaves of the tree, the walk writes the leaves down, resolution adds nothing but
white space to them, and the layout prints them in order.
-/

namespace Reprint

/-! ## The document of a tree -/

/-- The document of a tree holds the pieces of the walk through it. -/
theorem Unparser.exists_of_raw {u : Unparser} {rule source : String} {tree : Tree} {d : Doc}
    (walked : u.raw rule tree source = .ok d) :
    ∃ a, Unparse.Walk.node ⟨u.grammar, u.style, source⟩ tree false = .fits a ∧
      d = .concat a.docs := by
  by_cases known : u.grammar.ruleId? rule = some tree.rule
  · rw [Unparse.raw_of_known known] at walked
    cases fits : Unparse.Walk.node ⟨u.grammar, u.style, source⟩ tree false with
    | fits a =>
      simp only [fits] at walked
      cases finished : a.finish with
      | error e =>
        rw [finished] at walked
        cases walked
      | ok d' =>
        rw [finished] at walked
        obtain rfl := Except.ok.inj walked
        exact ⟨a, rfl, (Assembly.finish_eq_ok.1 finished).2⟩
    | misfit | broken | astray =>
      simp only [fits] at walked
      cases walked
  · rw [Unparse.raw_of_unknown known] at walked
    split at walked <;> cases walked

namespace Unparse

/-- If a style suits a grammar, the document of a parsed tree shows the text and
is made of fine pieces. -/
theorem exists_docs_of_raw {u : Unparser} {rule source : String} {keep : Char → Bool}
    {Fine : Bool → Doc → Prop} {Inner : Nat → Prop}
    (suits : Suits ⟨u.grammar, u.style, source⟩ keep Fine Inner) {tree : Tree}
    (parsed : u.grammar.parse rule source = .ok tree)
    (retained : Retained ⟨u.grammar, u.style, source⟩ keep tree.leaves) {d : Doc}
    (walked : u.raw rule tree source = .ok d) :
    ∃ docs, d = .concat docs ∧ (∀ x ∈ docs, Fine false x) ∧
      d.script keep = source.toList.filter keep := by
  obtain ⟨stop, done, laid⟩ := laid_of_parse suits.unsuppressed parsed
  obtain ⟨a, fits, rfl⟩ := Unparser.exists_of_raw walked
  have holds := records_tree suits (Cursor.in_start source) laid retained
  rw [fits] at holds
  have records : Records keep source Fine (u.grammar.isTrivia tree.rule) tree.leaves a := holds
  refine ⟨a.docs, rfl, ?_, ?_⟩
  · intro x member
    have fine := records.fine x member
    cases trivia : u.grammar.isTrivia tree.rule with
    | false => rwa [trivia] at fine
    | true =>
      rw [trivia] at fine
      exact suits.outward x fine
  · rw [Doc.script_concat, records.script, chars_leaves_of_laid done laid]

end Unparse

/-! ## Blank styles -/

namespace Doc

/-- The control nodes and the separators of a document are unseen where white
space is not looked at. -/
def Spaced (d : Doc) : Prop := d.Governed (Meets (Unseen Text.inked) fun _ => True) (Unseen Text.inked)

theorem unseen_space : Unseen Text.inked .space := unseen_of_isBlank rfl

theorem spaced_concat {ds : List Doc} (all : ∀ d ∈ ds, d.Spaced) : (concat ds).Spaced :=
  governed_concat all

theorem spaced_wrap {b : Bracket} (blank : (Directive.opening b).isBlank) {pieces : List Doc}
    (all : ∀ d ∈ pieces, d.Spaced) : (b.wrap pieces).Spaced := by
  have inner := spaced_concat all
  cases b with
  | group => exact inner
  | indent amount => exact inner
  | join separator =>
    exact ⟨governedAll_iff.2 inner.items, unseen_of_isBlank blank⟩

end Doc

namespace Unparse

open Doc

/-- Under a blank style the walk writes down all that is no white space. -/
theorem suits_of_isBlank {g : Grammar} (unsuppressed : g.Unsuppressed) {s : Style} (blank : s.isBlank)
    (source : String) :
    Suits ⟨g, s, source⟩ Text.inked (fun _ d => d.Spaced) (fun _ => True) where
  unsuppressed := unsuppressed
  normal := Style.treatment_of_isBlank blank
  text _ _ := trivial
  comment _ := trivial
  outward _ spaced := spaced
  spacing rule anchor d member := by
    have own := (Entry.isBlank_iff.1 (Style.isBlank_entryAt blank rule anchor)).2 _ member
    exact ⟨unseen_of_isBlank own, unseen_of_isBlank own⟩
  bracket rule anchor b member _ := by
    have own := (Entry.isBlank_iff.1 (Style.isBlank_entryAt blank rule anchor)).2 _ member
    exact spaced_wrap own
  slot rule sep _ := spaced_slot rule sep
  kept pieces required all := by
    refine ⟨⟨nofun, fun _ _ => trivial, nofun⟩, ?_⟩
    rw [script_triviaSlot, script_resolve (spaced_concat all), script_concat]
  trivia _ _ := trivial
  refers _ _ _ _ := trivial
  inner id _ r _ p _ := by
    have inner : ∀ sep, InnerSlot ⟨g, s, source⟩ Text.inked Spaced r.name sep := by
      refine fun sep _ => ⟨spaced_slot r.name sep, ?_⟩
      intro c own
      simp [Text.inked, own]
    exact ⟨inner _, fun i _ => inner i.slot⟩
where
  spaced_slot (rule : String) (sep : Separator) : (s.usualSlot rule sep).Spaced := by
    refine ⟨?_, nofun, fun _ _ => unseen_space⟩
    rintro _ ⟨⟩
    exact unseen_of_isBlank (Style.isBlank_spacing blank rule sep)

end Unparse

/-! ## Formatting -/

/-- The steps of formatting, where it succeeds. -/
theorem exists_of_format {g : Grammar} {style : Style} {rule source out : String} {layout : Layout}
    (formatted : format g style rule source layout = .ok out) :
    ∃ tree d, g.parse rule source = .ok tree ∧ Unparser.raw ⟨g, style⟩ rule tree source = .ok d ∧
      out = d.resolve.render layout := by
  unfold format at formatted
  split at formatted
  · cases formatted
  · next tree parsed =>
    split at formatted
    · cases formatted
    · next u made =>
      obtain rfl : u = ⟨g, style⟩ := by
        unfold Unparser.make at made
        split at made
        · cases made
        · split at made
          · cases made
          · exact (Except.ok.inj made).symm
      split at formatted
      · cases formatted
      · next d unparsed =>
        split at formatted
        · cases formatted
        · next text rendered =>
          obtain rfl := Except.ok.inj formatted
          unfold Unparser.unparse at unparsed
          obtain ⟨-, rfl⟩ := Doc.render?_eq_some_iff.1 rendered
          cases walked : Unparser.raw ⟨g, style⟩ rule tree source with
          | error e =>
            rw [walked] at unparsed
            cases unparsed
          | ok raw =>
            rw [walked] at unparsed
            obtain rfl := Except.ok.inj unparsed
            exact ⟨tree, raw, parsed, walked, rfl⟩

/-- Formatting in a blank style keeps all characters that are no white space, in
order, if what stands in slots is white space, or all of it is kept and none of
it stands beside more of it. -/
theorem filter_inked_format {g : Grammar} (unsuppressed : g.Unsuppressed) {style : Style}
    (blank : style.isBlank) {rule source : String} {layout : Layout}
    (trivia : ∀ tree, g.parse rule source = .ok tree →
      (∀ c ∈ tree.leaves, c.isTrivia → (c.chars source).all Text.isBlank) ∨
        (style.retention = .all ∧ tree.leaves.IsChain fun c d => ¬ (c.isTrivia ∧ d.isTrivia)))
    {out : String} (formatted : format g style rule source layout = .ok out) :
    out.toList.filter (fun c => !Text.isBlank c) = source.toList.filter fun c => !Text.isBlank c := by
  obtain ⟨tree, d, parsed, walked, rfl⟩ := exists_of_format formatted
  have retained : Unparse.Retained ⟨g, style, source⟩ Text.inked tree.leaves := by
    refine (trivia tree parsed).imp_left fun white c member stood => ?_
    rw [List.filter_eq_nil_iff]
    intro x inside
    have own := List.all_eq_true.1 (white c member stood) x inside
    simp [Text.inked, own]
  have suits := Unparse.suits_of_isBlank unsuppressed blank source
  obtain ⟨docs, rfl, spaced, script⟩ := Unparse.exists_docs_of_raw suits parsed retained walked
  calc (Doc.render layout (Doc.resolve (.concat docs))).toList.filter Text.inked
      = Doc.scriptOf Text.inked (Doc.resolve (.concat docs)).leaves :=
        Doc.filter_render layout (Doc.isFinal_resolve _)
    _ = (Doc.concat docs).script Text.inked := Doc.script_resolve (Doc.spaced_concat spaced)
    _ = source.toList.filter Text.inked := script

/-! ## A sum with a comment -/

/-- Sums of variables, with comments of one character. -/
def sums : Grammar :=
  let more : Production Grammar.Term :=
    ⟨[{ term := .literal "+" }, { slot := .allowed, term := .rule 1 }], .none⟩
  { rules := [
      ⟨"sum", [⟨[{ term := .rule 1 },
        { slot := .allowed, term := .group [more], quantifier := .many }], .allowed⟩]⟩,
      ⟨"variable", [⟨[{ term := .literal "x" }], .none⟩, ⟨[{ term := .literal "y" }], .none⟩]⟩,
      ⟨"_", [⟨[{ term := .literal " ", quantifier := .many },
        { term := .literal "#", quantifier := .optional },
        { term := .literal " ", quantifier := .many }], .none⟩]⟩]
    trivia := some 2 }

/-- A sum on one line if it fits there, and what comes behind a plus indented. -/
def spread : Style := Style.runAll {} [
  .setAllowed none .line,
  .direct (some "sum") ⟨.before, .ruleStart⟩ (.opening .group),
  .direct none ⟨.after, .literal "+"⟩ (.opening (.indent (some 2))),
  .direct (some "sum") ⟨.after, .ruleEnd⟩ (.closing .group),
  .direct (some "sum") ⟨.after, .ruleEnd⟩ (.closing .indent)]

/-- The tree of a sum in which a comment stands before the plus. -/
def commented : Tree :=
  ⟨0, ⟨0, 6⟩, [
    .node none ⟨1, ⟨0, 1⟩, [.token none ⟨0, 1⟩]⟩,
    .trivia none ⟨2, ⟨1, 4⟩, [.token none ⟨1, 2⟩, .token none ⟨2, 3⟩, .token none ⟨3, 4⟩]⟩,
    .token none ⟨4, 5⟩,
    .node none ⟨1, ⟨5, 6⟩, [.token none ⟨5, 6⟩]⟩]⟩

theorem parse_commented : sums.parse "sum" "x # +y" = .ok commented := by with_unfolding_all rfl

theorem unsuppressed_sums : sums.Unsuppressed := by
  unfold Grammar.Unsuppressed Throughout
  decide

theorem format_commented :
    format sums spread "sum" "x # +y" { width := 6 } = .ok "x # +\n  y\n" := by
  let raw : Doc := .group (.seq [.text "x",
    .triviaSlot (.seq [.text " ", .comment "#", .text " "]) false, .text "+",
    .indent (some 2) (.seq [.spacingSlot .line false, .text "y", .spacingSlot .line false])])
  let final : Doc := .seq [.group (.seq [.text "x", .text " ", .comment "#", .text " ", .text "+",
    .indent (some 2) (.seq [.line, .text "y"])]), .line]
  have made : Unparser.make sums spread = .ok ⟨sums, spread⟩ := by with_unfolding_all rfl
  have walked : Unparser.raw ⟨sums, spread⟩ "sum" commented "x # +y" = .ok raw := by
    with_unfolding_all rfl
  have resolved : raw.resolve = final := by cbv
  have rendered : final.render? { width := 6 } = some "x # +\n  y\n" := by rfl
  rw [format, parse_commented]
  simp only [made, Unparser.unparse, walked, Except.map, resolved, rendered]

/-- The comment and the variables stay; the blanks around the second variable change. -/
theorem filter_inked_format_commented :
    sums.Unsuppressed ∧ spread.isBlank ∧
      (∀ tree, sums.parse "sum" "x # +y" = .ok tree → spread.retention = .all ∧
        tree.leaves.IsChain fun c d => ¬ (c.isTrivia ∧ d.isTrivia)) ∧
      format sums spread "sum" "x # +y" { width := 6 } = .ok "x # +\n  y\n" ∧
      "x # +\n  y\n".toList.filter (fun c => !Text.isBlank c)
        = "x # +y".toList.filter fun c => !Text.isBlank c := by
  have blank : spread.isBlank := by decide
  have apart : ∀ tree, sums.parse "sum" "x # +y" = .ok tree → spread.retention = .all ∧
      tree.leaves.IsChain fun c d => ¬ (c.isTrivia ∧ d.isTrivia) := by
    intro tree parsed
    obtain rfl := Except.ok.inj (parse_commented.symm.trans parsed)
    exact ⟨rfl, by decide⟩
  exact ⟨unsuppressed_sums, blank, apart, format_commented, filter_inked_format unsuppressed_sums blank
    (fun tree parsed => .inr (apart tree parsed)) format_commented⟩

end Reprint
