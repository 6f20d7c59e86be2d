import Reprint.Proofs.Format.RoundTrip
import Reprint.Proofs.Unparse.Spelling

/-!
# Suppressed literals

In the default style a formatted text is a spelling of the tree of the source, and
so is the source (`spelling_format`).  Where the tree has no other spelling, the
text stays as it was.  Where it has one, the tree does not say which of them was
read, and a literal may come up that was not there.
-/

namespace Reprint

/-- Texts are printed one behind the other. -/
theorem toList_render_resolve (words : List String) (layout : Layout) :
    ((Doc.concat (words.map Doc.text)).resolve.render layout).toList = words.flatMap String.toList := by
  have plain : (Doc.concat (words.map Doc.text)).Plain Doc.Settled :=
    Doc.plain_concat (List.forall_mem_map.2 fun _ _ => Unparse.plain_leaf rfl)
  obtain ⟨level, fixed, same⟩ := Doc.resolve_plain plain
  rw [Doc.render_eq layout (Doc.isFinal_resolve _) level fixed, same, Doc.script_concat,
    List.flatMap_map]
  refine List.flatMap_congr fun word _ => ?_
  rw [Doc.script_leaf, List.filter_true]
  rfl

/-- In the default style and without blanks the source and what it is formatted to
are spellings of one tree.  So they are the same if it has only one. -/
theorem spelling_format {g : Grammar} (condensed : g.Condensed) {rule source out : String}
    {layout : Layout} (formatted : format g {} rule source layout = .ok out) :
    ∃ tree, g.parse rule source = .ok tree ∧ Spelling g source tree source.toList ∧
      Spelling g source tree out.toList ∧
      ((∀ t u, Spelling g source tree t → Spelling g source tree u → t = u) → out = source) := by
  obtain ⟨tree, d, parsed, walked, rfl⟩ := exists_of_format formatted
  obtain ⟨a, fits, rfl⟩ := Unparser.exists_of_raw walked
  obtain ⟨words, docs, written⟩ := Unparse.exists_of_node condensed fits
  have read := spelling_of_parse condensed parsed
  rw [docs]
  rw [← toList_render_resolve words layout] at written
  exact ⟨tree, parsed, read, written, fun unique => String.toList_inj.1 (unique _ _ written read)⟩

/-! ## A list whose commas are left out -/

/-- A comma that is left out and a letter. -/
def comma : Production Grammar.Term :=
  ⟨[{ term := .literal ",", suppressed := true }, { term := .literal "x" }], .none⟩

/-- As many letters behind commas as there are. -/
def commas : Item Grammar.Term := { term := .group [comma], quantifier := .many }

/-- A letter, and more of them behind commas. -/
def letterList : Grammar where
  rules := [⟨"list", [⟨[{ term := .literal "x" }, commas], .none⟩]⟩]
  trivia := none

theorem condensed_letterList : letterList.Condensed where
  trivia := rfl
  throughout := by
    intro r member p inside
    obtain rfl := List.mem_singleton.1 member
    simp [nested, nestedInProduction, nestedInItems, nestedInItem, nestedInTerm, commas, comma] at inside
    obtain rfl | rfl := inside
    · exact ⟨rfl, by simp⟩
    · exact ⟨rfl, by simp⟩

section LetterList

variable {source : String} {children : List Child} {text : List Char}

/-- A comma and a letter have one child. -/
theorem spells_comma (spells : Spells letterList source (.production comma) children text) :
    children.length = 1 ∧ text = [',', 'x'] := by
  rw [Spells.production_iff] at spells
  simp only [comma, Spells.cons_iff, Spells.nil_iff, Spells.literal_iff] at spells
  obtain ⟨_, _, _, _, rfl, rfl, ⟨rfl, rfl⟩, _, _, _, _, rfl, rfl, ⟨rfl, span, rfl, _⟩, rfl, rfl⟩ := spells
  exact ⟨rfl, rfl⟩

/-- So the children tell how many commas there are. -/
theorem spells_commas {count : Nat} (spells : Spells letterList source (.repeats commas count) children text) :
    text = (List.replicate children.length [',', 'x']).flatten := by
  induction count generalizing children text with
  | zero =>
    cases spells
    rfl
  | succ count ih =>
    cases spells with
    | succ once rest =>
      cases once with
      | hidden hidden => cases hidden
      | shown _ spells =>
        obtain ⟨p, member, spells⟩ := Spells.group_iff.1 spells
        obtain rfl := List.mem_singleton.1 member
        obtain ⟨length, rfl⟩ := spells_comma spells
        rw [ih rest, List.length_append, length, Nat.add_comm, List.replicate_succ]
        rfl

/-- A list has one spelling. -/
theorem spelling_letterList {tree : Tree} (spelling : Spelling letterList source tree text) :
    text = 'x' :: (List.replicate (tree.children.length - 1) [',', 'x']).flatten := by
  obtain ⟨r, p, found, member, spells⟩ := spelling
  obtain rfl := List.mem_singleton.1 (List.mem_of_getElem? found)
  obtain rfl := List.mem_singleton.1 member
  rw [Spells.production_iff] at spells
  simp only [Spells.cons_iff, Spells.nil_iff, Spells.literal_iff] at spells
  obtain ⟨_, _, _, _, split, rfl, ⟨rfl, span, rfl, _⟩, _, _, _, _, rfl, rfl, more, rfl, rfl⟩ := spells
  rw [split]
  cases more with
  | item _ _ spells =>
    rw [spells_commas spells]
    simp

end LetterList

/-- The commas come back, one for each letter but the first. -/
theorem spelling_format_letterList :
    letterList.Condensed ∧
      (∀ tree t u, Spelling letterList "x,x,x" tree t → Spelling letterList "x,x,x" tree u → t = u) ∧
      ∃ out, format letterList {} "list" "x,x,x" {} = .ok out ∧ out = "x,x,x" := by
  have unique : ∀ tree t u, Spelling letterList "x,x,x" tree t → Spelling letterList "x,x,x" tree u →
      t = u := by
    intro tree t u first second
    rw [spelling_letterList first, spelling_letterList second]
  have formatted : format letterList {} "list" "x,x,x" {} = .ok "x,x,x" := by
    let raw : Doc := .seq [.text "x", .text ",", .text "x", .text ",", .text "x"]
    have parsed : letterList.parse "list" "x,x,x" = .ok ⟨0, ⟨0, 5⟩,
      [.token none ⟨0, 1⟩, .token none ⟨2, 3⟩, .token none ⟨4, 5⟩]⟩ := by with_unfolding_all rfl
    have made : Unparser.make letterList {} = .ok ⟨letterList, {}⟩ := by with_unfolding_all rfl
    have walked : Unparser.raw ⟨letterList, {}⟩ "list" ⟨0, ⟨0, 5⟩,
        [.token none ⟨0, 1⟩, .token none ⟨2, 3⟩, .token none ⟨4, 5⟩]⟩ "x,x,x" = .ok raw := by
      with_unfolding_all rfl
    have resolved : raw.resolve = raw := by cbv
    have rendered : raw.render? {} = some "x,x,x" := by rfl
    rw [format, parsed]
    simp only [made, Unparser.unparse, walked, Except.map, resolved, rendered]
  obtain ⟨tree, _, _, _, same⟩ := spelling_format condensed_letterList formatted
  exact ⟨condensed_letterList, unique, _, formatted, same (unique tree)⟩

/-! ## A sign that is left out -/

/-- A digit with an optional sign that is left out. -/
def signed : Grammar where
  rules := [⟨"number", [⟨[
    { term := .group [⟨[{ term := .literal "-", suppressed := true }], .none⟩], quantifier := .optional },
    { term := .literal "1" }], .none⟩]⟩]
  trivia := none

theorem condensed_signed : signed.Condensed where
  trivia := rfl
  throughout := by
    intro r member p inside
    obtain rfl := List.mem_singleton.1 member
    simp [nested, nestedInProduction, nestedInItems, nestedInItem, nestedInTerm] at inside
    obtain rfl | rfl := inside
    · exact ⟨rfl, by simp⟩
    · exact ⟨rfl, by simp⟩

/-- The tree of a digit without a sign is written with one: a suppressed literal fits
in any case, so the group seems to be there. -/
theorem format_signed :
    signed.Condensed ∧
      (∀ r ∈ signed.rules, Throughout
        (fun p => ∀ i ∈ p.items, i.suppressed → i.quantifier = .one) r.productions) ∧
      signed.parse "number" "1" = .ok ⟨0, ⟨0, 1⟩, [.token none ⟨0, 1⟩]⟩ ∧
      format signed {} "number" "1" {} = .ok "-1" := by
  have required : ∀ r ∈ signed.rules, Throughout
      (fun p => ∀ i ∈ p.items, i.suppressed → i.quantifier = .one) r.productions := by
    unfold Throughout
    decide
  let raw : Doc := .seq [.text "-", .text "1"]
  have parsed : signed.parse "number" "1" = .ok ⟨0, ⟨0, 1⟩, [.token none ⟨0, 1⟩]⟩ := by
    with_unfolding_all rfl
  have made : Unparser.make signed {} = .ok ⟨signed, {}⟩ := by with_unfolding_all rfl
  have walked : Unparser.raw ⟨signed, {}⟩ "number" ⟨0, ⟨0, 1⟩, [.token none ⟨0, 1⟩]⟩ "1" = .ok raw := by
    with_unfolding_all rfl
  have resolved : raw.resolve = raw := by cbv
  have rendered : raw.render? {} = some "-1" := by rfl
  refine ⟨condensed_signed, required, parsed, ?_⟩
  rw [format, parsed]
  simp only [made, Unparser.unparse, walked, Except.map, resolved, rendered]

end Reprint
