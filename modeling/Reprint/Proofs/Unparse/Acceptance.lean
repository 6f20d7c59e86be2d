import Reprint.Proofs.Unparse.Retrace

/-!
# Which parsed trees are taken back

Where the parser passed over a part of the grammar, it had looked at the text,
while the walk sees only the children.  A parsed tree is taken back if the walk
does not find such a part, or takes the same children for it as the parser took
instead (`exists_unparse_of_parse`).  If it takes others, it may end up with a
tree that does not fit, although the grammar has made it: blanks that have to
stand in a slot are looked for in the text but not among the children
(`unparse_glued`).
-/

namespace Reprint

open Matching (Reads)

namespace Unparse

/-- Retracing a tree that was read yields a closed document. -/
theorem exists_node_of_reads {g : Grammar} (unsuppressed : g.Unsuppressed) {source : String} {tree : Tree}
    {log : List Matching.Note} (reads : Reads g source tree log)
    (agrees : ∀ note ∈ log, Agrees (.plain g source) note) :
    ∃ a, (Walk.plain g source).node tree false = .fits a ∧ a.frames = [] := by
  obtain ⟨found, first, run, _, _⟩ := reads
  exact exists_rule unsuppressed found first.mem (of_children_of_run run)
    (retraces_of_run unsuppressed run (Cursor.in_start source) (Matching.ready_nil _ _ _) agrees)

end Unparse

/-- A parsed tree is taken back in the default style if patterns, tried alone on
the texts that they took, take all of them, and the walk concurs with the parser
wherever that passed over a production of a group or an occurrence of an item. -/
theorem exists_unparse_of_parse {g : Grammar} (unsuppressed : g.Unsuppressed) {rule source : String}
    {tree : Tree} (parsed : g.parse rule source = .ok tree) {log : List Matching.Note}
    (reads : Reads g source tree log) (taken : ∀ p text, .took p text ∈ log → p.takesAll text)
    (passed : ∀ id inTrivia part here behind, .passed id inTrivia part here behind ∈ log →
      Unparse.Concurs (.plain g source) id inTrivia part here behind) :
    ∃ u d, Unparser.make g {} = .ok u ∧ u.unparse rule tree source = .ok d := by
  have agrees : ∀ note ∈ log, Unparse.Agrees (.plain g source) note := by
    intro note member
    cases note with
    | took p text => exact taken p text member
    | passed id inTrivia part here behind => exact passed id inTrivia part here behind member
  obtain ⟨known, _⟩ := Matching.reads_of_parse unsuppressed parsed
  obtain ⟨a, fits, closed⟩ := Unparse.exists_node_of_reads unsuppressed reads agrees
  have walked : Unparser.raw ⟨g, {}⟩ rule tree source = .ok (.concat a.docs) := by
    rw [Unparse.raw_of_known known]
    simp only [fits, Assembly.finish_eq_ok.2 ⟨closed, rfl⟩, Except.mapError]
  refine ⟨⟨g, {}⟩, (Doc.concat a.docs).resolve, Unparse.make_plain unsuppressed, ?_⟩
  rw [Unparser.unparse, walked]
  rfl

/-! ## A list of words -/

/-- Words of small letters. -/
def letters : Pattern :=
  ⟨"[a-z]+", .ofExpr (.cat (.look .start) (.rounds (.set [(97, 122)]) 1 none true))⟩

/-- One more word behind a mark. -/
def nextWord (mark : String) : Production Grammar.Term :=
  ⟨[{ term := .literal mark }, { slot := .allowed, term := .rule 1 }], .none⟩

/-- As many more words as there are, behind semicolons and commas. -/
def moreWords : Item Grammar.Term :=
  { slot := .allowed, term := .group [nextWord ";", nextWord ","], quantifier := .many }

/-- What may stand at the end of a list. -/
def fullStop : Item Grammar.Term := { term := .literal ".", quantifier := .optional }

def blank : Item Grammar.Term := { term := .literal " ", quantifier := .some }

/-- Lists of words. -/
def listing : Grammar where
  rules := [
    ⟨"list", [⟨[{ term := .rule 1 }, moreWords, fullStop], .none⟩]⟩,
    ⟨"word", [⟨[{ label := "name", term := .pattern letters }], .none⟩]⟩,
    ⟨"_", [⟨[blank], .none⟩]⟩]
  trivia := some 2

/-- A word of one letter. -/
def wordAt (offset : Nat) : Child :=
  .node none ⟨1, ⟨offset, offset + 1⟩, [.token (some "name") ⟨offset, offset + 1⟩]⟩

/-- The tree of two words with a blank before the comma. -/
def twoWords : Tree :=
  ⟨0, ⟨0, 4⟩, [wordAt 0, .trivia none ⟨2, ⟨1, 2⟩, [.token none ⟨1, 2⟩]⟩, .token none ⟨2, 3⟩, wordAt 3]⟩

/-- What is noted about two words: a semicolon was passed over before the comma,
and nothing came behind the second word. -/
def twoWordsLog : List Matching.Note := [
  .took letters ['a'],
  .passed 2 true (.once blank) [] [],
  .passed 0 false (.production (nextWord ";")) [.token none ⟨2, 3⟩, wordAt 3] [],
  .took letters ['b'],
  .passed 0 false (.once moreWords) [] [],
  .passed 0 false (.once fullStop) [] []]

section TwoWords

open Matching

theorem run_word {site : Site} {depth : Nat} (deep : site.depth = depth + 1) {c : Char} {offset : Nat}
    {rest : List Char} {left : List Child} (taken : letters.taken? (c :: rest) = some 1)
    (size : c.utf8Size = 1) :
    Run listing site (.term none (.rule 1)) ⟨⟨offset, c :: rest⟩, wordAt offset :: left⟩
      ⟨⟨offset + 1, rest⟩, left⟩ [.took letters [c]] := by
  have stop : (⟨offset, c :: rest⟩ : Cursor).advance 1 = ⟨offset + 1, rest⟩ := by
    simp [Cursor.advance, Text.width, size]
  let inner : Site := .of listing 1 depth site.inTrivia site.stack ⟨offset, c :: rest⟩
  have pattern : Run listing inner (.term (some "name") (.pattern letters))
      ⟨⟨offset, c :: rest⟩, [.token (some "name") ⟨offset, offset + 1⟩]⟩ ⟨⟨offset + 1, rest⟩, []⟩
      [.took letters [c]] := by
    have run := @Run.pattern listing inner (some "name") letters 1 ⟨offset, c :: rest⟩ [] taken
    rw [stop] at run
    exact run
  have production := @Run.production listing inner
    ⟨[{ label := "name", term := .pattern letters }], .none⟩ _ _ _ _ _
    (.cons (.single rfl rfl (.once .tight pattern)) .nil) .tight
  exact .node deep rfl (.single ..) production

theorem reads_twoWords : Reads listing "a ,b" twoWords twoWordsLog := by
  have one : letters.taken? ['a', ' ', ',', 'b'] = some 1 := by with_unfolding_all rfl
  have last : letters.taken? ['b'] = some 1 := by with_unfolding_all rfl
  let site : Site := .of listing 0 34 false [] ⟨0, ['a', ' ', ',', 'b']⟩
  let inside : Site := .of listing 2 33 true site.stack ⟨1, [' ', ',', 'b']⟩
  let comma : List Child := [.token none ⟨2, 3⟩, wordAt 3]
  have space := @Run.production listing inside ⟨[blank], .none⟩
    ⟨⟨1, [' ', ',', 'b']⟩, [.token none ⟨1, 2⟩]⟩ ⟨⟨2, [',', 'b']⟩, []⟩ _ _ _
    (.cons (.many rfl rfl (Nat.le_refl _) (.more (.once .tight
      (@Run.literal listing inside none " " ⟨1, [' ', ',', 'b']⟩ [] (by decide)))
      (by decide) (.stop ⟨_, by with_unfolding_all rfl⟩))) .nil) .tight
  have trivia := @Run.trivia listing site .allowed 2 33 _ _ ⟨1, [' ', ',', 'b']⟩ ⟨2, [',', 'b']⟩
    [.token none ⟨1, 2⟩] comma _ (by decide) rfl rfl rfl ⟨_, by with_unfolding_all rfl⟩ (by decide) rfl
    (.single ..) space
  have noTrivia : Run listing site (.slot .allowed) ⟨⟨3, ['b']⟩, [wordAt 3]⟩
      ⟨⟨3, ['b']⟩, [wordAt 3]⟩ [] := by
    refine .noTrivia rfl rfl fun tree d called => ?_
    have nothing : (Matching.rule listing 34 2 true site.stack ⟨3, ['b']⟩).Gives none :=
      ⟨_, by with_unfolding_all rfl⟩
    have same := called.unique nothing
    cases same
  have second := @Run.production listing site (nextWord ",") ⟨⟨2, [',', 'b']⟩, comma⟩ ⟨⟨4, []⟩, []⟩
    _ _ _ (.cons (.single rfl rfl (.once .tight
      (@Run.literal listing site none "," ⟨2, [',', 'b']⟩ [wordAt 3] (by decide))))
      (.cons (.single rfl rfl (.once noTrivia (run_word rfl last rfl))) .nil)) .tight
  have whole := @Run.production listing site ⟨[{ term := .rule 1 }, moreWords, fullStop], .none⟩
    ⟨⟨0, ['a', ' ', ',', 'b']⟩, twoWords.children⟩ ⟨⟨4, []⟩, []⟩ _ _ _
    (.cons (.single rfl rfl (.once .tight (run_word rfl one rfl)))
      (.cons (.many rfl rfl (Nat.zero_le _)
        (.more (.once trivia (.group (.next ⟨_, by with_unfolding_all rfl⟩ (.here second))))
          (by decide) (.stop ⟨_, by with_unfolding_all rfl⟩)))
        (.cons (.absent rfl rfl ⟨_, by with_unfolding_all rfl⟩) .nil))) .tight
  exact @Reads.whole listing "a ,b" 0 34 _ _ ⟨4, []⟩ twoWords.children _ rfl
    (.single ..) whole rfl rfl

end TwoWords

theorem exists_unparse_of_parse_twoWords :
    listing.Unsuppressed ∧ listing.parse "list" "a ,b" = .ok twoWords ∧
      Reads listing "a ,b" twoWords twoWordsLog ∧
      (∀ p text, .took p text ∈ twoWordsLog → p.takesAll text) ∧
      (∀ id inTrivia part here behind, .passed id inTrivia part here behind ∈ twoWordsLog →
        Unparse.Concurs (.plain listing "a ,b") id inTrivia part here behind) ∧
      ∃ u d, Unparser.make listing {} = .ok u ∧ u.unparse "list" twoWords "a ,b" = .ok d := by
  have shown : listing.Unsuppressed := by
    unfold Grammar.Unsuppressed Throughout
    decide
  have parsed : listing.parse "list" "a ,b" = .ok twoWords := by with_unfolding_all rfl
  have taken : ∀ p text, .took p text ∈ twoWordsLog → p.takesAll text := by
    intro p text member
    simp [twoWordsLog] at member
    rcases member with ⟨rfl, rfl⟩ | ⟨rfl, rfl⟩ <;> with_unfolding_all rfl
  have passed : ∀ id inTrivia part here behind, .passed id inTrivia part here behind ∈ twoWordsLog →
      Unparse.Concurs (.plain listing "a ,b") id inTrivia part here behind := by
    intro id inTrivia part here behind member a _
    simp only [twoWordsLog, List.mem_cons, reduceCtorEq, Matching.Note.passed.injEq, List.not_mem_nil,
      false_or, or_false] at member
    rcases member with ⟨rfl, rfl, rfl, rfl, rfl⟩ | ⟨rfl, rfl, rfl, rfl, rfl⟩ | ⟨rfl, rfl, rfl, rfl, rfl⟩ |
      ⟨rfl, rfl, rfl, rfl, rfl⟩
    all_goals exact .inl (by with_unfolding_all rfl)
  exact ⟨shown, parsed, reads_twoWords, taken, passed,
    exists_unparse_of_parse shown parsed reads_twoWords taken passed⟩

/-! ## A part that only seems to fit -/

/-- Two letters with a blank between. -/
def spaced : Production Grammar.Term :=
  ⟨[{ term := .literal "a" }, { slot := .required, term := .literal "b" }], .none⟩

/-- Three letters without blanks. -/
def dense : Production Grammar.Term :=
  ⟨[{ term := .literal "a" }, { term := .literal "b" }, { term := .literal "c" }], .none⟩

/-- Two letters with a blank between, or else three letters without blanks. -/
def glued : Grammar where
  rules := [
    ⟨"letters", [⟨[{ term := .group [spaced, dense] }], .none⟩]⟩,
    ⟨"_", [⟨[{ term := .literal " " }], .none⟩]⟩]
  trivia := some 1

/-- The tree of three letters. -/
def threeLetters : Tree :=
  ⟨0, ⟨0, 3⟩, [.token none ⟨0, 1⟩, .token none ⟨1, 2⟩, .token none ⟨2, 3⟩]⟩

/-- The parser misses the blank and passes over the first production; the walk
does not miss it, takes two children for this production, and is left with the
third one. -/
theorem unparse_glued :
    glued.Unsuppressed ∧
      (∀ r ∈ glued.rules,
        Throughout (fun p => ∀ i ∈ p.items, !(i.term matches .pattern _)) r.productions) ∧
      glued.parse "letters" "abc" = .ok threeLetters ∧
      ¬ Unparse.Concurs (.plain glued "abc") 0 false (.production spaced) threeLetters.children [] ∧
      Unparser.make glued {} = .ok ⟨glued, {}⟩ ∧
      Unparser.unparse ⟨glued, {}⟩ "letters" threeLetters "abc" = .error (.mismatch "letters") := by
  have shown : glued.Unsuppressed := by
    unfold Grammar.Unsuppressed Throughout
    decide
  have literal : ∀ r ∈ glued.rules,
      Throughout (fun p => ∀ i ∈ p.items, !(i.term matches .pattern _)) r.productions := by
    unfold Throughout
    decide
  have parsed : glued.parse "letters" "abc" = .ok threeLetters := by with_unfolding_all rfl
  have strays : ¬ Unparse.Concurs (.plain glued "abc") 0 false (.production spaced)
      threeLetters.children [] := by
    let walk := Unparse.follow ((Unparse.Walk.plain glued "abc").within 0 false) (.production spaced)
      ((Unparse.Walk.plain glued "abc").visits threeLetters.children, {})
    have left : walk.map (fun q => q.1.length) = .fits 1 := by with_unfolding_all rfl
    intro concurs
    rcases concurs {} rfl with misfit | ⟨b, _, fits⟩
    · rw [show walk = .misfit from misfit] at left
      cases left
    · rw [show walk = .fits ([], b) from fits] at left
      cases left
  have walked : Unparser.raw ⟨glued, {}⟩ "letters" threeLetters "abc" = .error (.mismatch "letters") := by
    with_unfolding_all rfl
  refine ⟨shown, literal, parsed, strays, Unparse.make_plain shown, ?_⟩
  rw [Unparser.unparse, walked]
  rfl

end Reprint
