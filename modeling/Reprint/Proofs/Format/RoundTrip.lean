import Reprint.Proofs.Format.WhiteSpace

/-!
# Round trips without a style

The default style asks for a space where blanks have to stand and for nothing
elsewhere.  If every slot that needs blanks has kept trivia, the document that it
makes of a parsed tree is printed as the source, byte for byte
(`render_resolve_raw`).  Trivia has to be without slots of its own, since what
stands in those is not kept.
-/

namespace Reprint

namespace Doc

/-! ## Bare documents -/

/-- A slot that needs blanks and has no trivia to show for it. -/
def isUnmet : Doc → Bool
  | .slot _ none true => true
  | _ => false

/-- The control nodes that the default style puts into a document. -/
inductive Bare : Doc → Prop
  | allowed : Bare (.spacingSlot .empty false)
  | required : Bare (.spacingSlot .space true)
  /-- Trivia that is resolved to a document without indentations. -/
  | trivia {d : Doc} (required : Bool) : (resolve d).isLevel → Bare (.triviaSlot d required)

/-- A document without brackets and without breaks that depend on the layout. -/
structure Plain (control : Doc → Prop) (d : Doc) : Prop where
  governed : d.Governed control fun _ => False
  level : d.isLevel
  fixed : ∀ s ∈ d.skeleton, s.leaf.isFixed

theorem plain_concat {control : Doc → Prop} {ds : List Doc} (all : ∀ d ∈ ds, d.Plain control) :
    (concat ds).Plain control where
  governed := governed_concat fun d member => (all d member).governed
  level := isLevel_concat fun d member => (all d member).level
  fixed := by
    intro s member
    rw [skeleton, strands_concat] at member
    obtain ⟨d, inside, member⟩ := List.mem_flatMap.1 member
    exact (all d inside).fixed s member

/-- No decision of a plain document is seen but the choice of trivia. -/
def Settled : Doc → Prop := Meets (· = .empty) fun t => (resolve t).isLevel

/-- What a plain document without unmet slots is resolved to. -/
theorem resolve_plain {d : Doc} (plain : d.Plain Settled) :
    (resolve d).isLevel ∧ (∀ s ∈ (resolve d).leaves, s.leaf.isFixed) ∧
      scriptOf (fun _ => true) (resolve d).leaves = d.script fun _ => true := by
  have nothing : ∀ x : Doc, x = .empty → (resolve x).leaves = [] := by
    rintro _ rfl
    rw [resolve_empty]
    rfl
  refine ⟨?_, ?_, ?_⟩
  · rw [resolve_eq]
    refine hereditary_isLevel.resolveWith hereditary_isLevel (fun _ => rfl) (fun _ level => level)
      (fun level _ => by cases level) ?_ (fun _ level => level) (fun _ held => held.elim) plain.level
      plain.governed
    rintro _ rfl
    rw [resolve_empty]
    rfl
  · have woven := woven_resolve (Q := fun l => l.isFixed) (fun _ => rfl)
      (fun x none s member => by simp [nothing x none] at member) (fun _ held => held.elim)
      plain.governed
    refine woven.free_of_free ?_ plain.fixed
    intro x y fixed keeps
    cases keeps with
    | same | loose => exact fixed
    | newline => rfl
  · refine script_resolve (plain.governed.mono ?_ fun _ held => held.elim)
    intro c settled
    refine settled.mono ?_ fun _ _ => trivial
    intro x none s member
    rw [nothing x none] at member
    cases member

theorem Plain.mono {control control' : Doc → Prop} {d : Doc} (plain : d.Plain control)
    (weaker : ∀ c, control c → control' c) : d.Plain control' :=
  ⟨plain.governed.mono weaker fun _ none => none, plain.level, plain.fixed⟩

/-- Without unmet slots a bare document is settled. -/
theorem settled_of_bare {c : Doc} (bare : Bare c) (met : c.isUnmet = false) : Settled c := by
  cases bare with
  | allowed =>
    refine ⟨?_, nofun, nofun⟩
    rintro _ ⟨⟩
    rfl
  | required => cases met
  | trivia required level =>
    refine ⟨nofun, ?_, nofun⟩
    rintro _ ⟨⟩
    exact level

end Doc

/-! ## The default style -/

namespace Unparse

open Doc

/-- What the walk writes under the default style: outside trivia bare documents,
and inside trivia documents without control nodes. -/
def DefaultFine (inTrivia : Bool) (d : Doc) : Prop :=
  d.Plain fun c => inTrivia = false ∧ Bare c

/-- The rule for trivia and those that are reached from it have no slots. -/
def TightTrivia (g : Grammar) : Prop := ∀ id ∈ g.trivia, ∀ other, g.Reaches id other → g.Unspaced other

theorem plain_leaf {control : Doc → Prop} {l : Leaf} (fixed : l.isFixed) : (Doc.leaf l).Plain control where
  governed := trivial
  level := rfl
  fixed := List.forall_mem_singleton.2 fixed

/-- Under the default style the walk writes down all characters. -/
theorem suits_default {g : Grammar} (unsuppressed : g.Unsuppressed) (tight : TightTrivia g)
    (source : String) :
    Suits ⟨g, {}, source⟩ (fun _ => true) DefaultFine (fun id => ∃ t ∈ g.trivia, g.Reaches t id) where
  unsuppressed := unsuppressed
  normal rule label literal := Style.treatment_of_isBlank rfl rule label literal
  text _ _ := plain_leaf rfl
  comment _ := plain_leaf rfl
  outward _ plain := plain.mono fun _ never => by cases never.1
  spacing rule anchor d member := by
    rw [Style.default_entryAt] at member
    cases member
  bracket rule anchor b member := by
    rw [Style.default_entryAt] at member
    cases member
  slot rule sep some := by
    cases sep with
    | none => exact absurd rfl some
    | allowed => exact ⟨⟨rfl, .allowed⟩, rfl, List.forall_mem_nil _⟩
    | required => exact ⟨⟨rfl, .required⟩, rfl, List.forall_mem_nil _⟩
  kept pieces required all := by
    have plain : (concat pieces).Plain Settled :=
      (plain_concat all).mono fun _ never => by cases never.1
    obtain ⟨level, fixed, script⟩ := resolve_plain plain
    refine ⟨⟨⟨rfl, .trivia required level⟩, rfl, ?_⟩, ?_⟩
    · intro s member
      obtain ⟨x, inside, rfl⟩ := List.mem_map.1 member
      exact fixed x inside
    · rw [script_triviaSlot, script, script_concat]
  trivia id known := ⟨id, known, .refl⟩
  refers id other inner refers := by
    obtain ⟨t, known, reaches⟩ := inner
    exact ⟨t, known, reaches.tail refers⟩
  inner id inner r found p member := by
    obtain ⟨t, known, reaches⟩ := inner
    obtain ⟨trailing, items⟩ := tight t known id reaches r found p member
    exact ⟨fun some => absurd trailing some, fun i item some => absurd (items i item) some⟩

end Unparse

/-- Under the default style a parsed text is printed as it was, if no slot is
left unmet, trivia has no slots of its own and none of it stands beside more. -/
theorem render_resolve_raw {g : Grammar} (unsuppressed : g.Unsuppressed)
    (tight : ∀ id ∈ g.trivia, ∀ other, g.Reaches id other → g.Unspaced other)
    {rule source : String} {tree : Tree} (parsed : g.parse rule source = .ok tree)
    (apart : tree.leaves.IsChain fun c d => ¬ (c.isTrivia ∧ d.isTrivia)) {raw : Doc}
    (walked : Unparser.raw ⟨g, {}⟩ rule tree source = .ok raw)
    (met : raw.Governed (fun c => c.isUnmet = false) fun _ => True) (layout : Layout) :
    raw.resolve.render layout = source := by
  have suits := Unparse.suits_default unsuppressed tight source
  obtain ⟨docs, rfl, fine, script⟩ := Unparse.exists_docs_of_raw suits parsed (.inr ⟨rfl, apart⟩) walked
  have plain := Doc.plain_concat fine
  have settled : (Doc.concat docs).Plain Doc.Settled := by
    refine ⟨(plain.governed.and met).mono ?_ fun _ none => none.1, plain.level, plain.fixed⟩
    exact fun c both => Doc.settled_of_bare both.1.2 both.2
  obtain ⟨level, fixed, same⟩ := Doc.resolve_plain settled
  have printed := Doc.render_eq layout (Doc.isFinal_resolve _) level fixed
  rw [same, script, List.filter_true] at printed
  exact String.toList_inj.1 printed

/-! ## Lines with blanks -/

/-- Lines of one letter, with blanks before the line end and behind it. -/
def lines : Grammar :=
  let line : Production Grammar.Term :=
    ⟨[{ term := .literal "a" }, { slot := .allowed, term := .literal "\n" }], .allowed⟩
  { rules := [
      ⟨"lines", [⟨[{ term := .group [line], quantifier := .many }], .none⟩]⟩,
      ⟨"_", [⟨[{ term := .literal " ", quantifier := .some }], .none⟩]⟩]
    trivia := some 1 }

/-- The tree of two lines, the first one with a blank. -/
def twoLines : Tree :=
  ⟨0, ⟨0, 5⟩, [
    .token none ⟨0, 1⟩, .trivia none ⟨1, ⟨1, 2⟩, [.token none ⟨1, 2⟩]⟩, .token none ⟨2, 3⟩,
    .token none ⟨3, 4⟩, .token none ⟨4, 5⟩]⟩

theorem tight_lines : Unparse.TightTrivia lines := by
  rintro _ ⟨⟩ other reaches
  rcases reaches.cases_head with rfl | ⟨next, ⟨r, found, p, member, i, item, refers⟩, _⟩
  · intro r found
    obtain rfl := Option.some.inj found
    unfold Throughout
    decide
  · obtain rfl := Option.some.inj found
    simp [nested, nestedInProduction, nestedInItems, nestedInItem, nestedInTerm] at member
    subst member
    simp at item
    subst item
    cases refers

/-- The line ends become hard ones, and the text stays as it was. -/
theorem render_resolve_raw_twoLines :
    lines.Unsuppressed ∧ Unparse.TightTrivia lines ∧ lines.parse "lines" "a \na\n" = .ok twoLines ∧
      (twoLines.leaves.IsChain fun c d => ¬ (c.isTrivia ∧ d.isTrivia)) ∧
      ∃ raw, Unparser.raw ⟨lines, {}⟩ "lines" twoLines "a \na\n" = .ok raw ∧
        raw.Governed (fun c => c.isUnmet = false) (fun _ => True) ∧
        raw.resolve.render {} = "a \na\n" := by
  have shown : lines.Unsuppressed := by
    unfold Grammar.Unsuppressed Throughout
    decide
  have parsed : lines.parse "lines" "a \na\n" = .ok twoLines := by with_unfolding_all rfl
  have apart : twoLines.leaves.IsChain fun c d => ¬ (c.isTrivia ∧ d.isTrivia) := by decide
  let raw : Doc := .seq [.text "a", .triviaSlot (.text " ") false, .text "\n", .spacingSlot .empty false,
    .text "a", .spacingSlot .empty false, .text "\n", .spacingSlot .empty false]
  have walked : Unparser.raw ⟨lines, {}⟩ "lines" twoLines "a \na\n" = .ok raw := by
    with_unfolding_all rfl
  have met : raw.Governed (fun c => c.isUnmet = false) fun _ => True := by
    simp [raw, Doc.Governed, Doc.GovernedAll, Doc.isUnmet]
  exact ⟨shown, tight_lines, parsed, apart, raw, walked, met,
    render_resolve_raw shown tight_lines parsed apart walked met {}⟩

end Reprint
