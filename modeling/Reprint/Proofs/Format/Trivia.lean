import Mathlib.Data.List.Chain
import Mathlib.Data.List.Forall2
import Reprint.Proofs.Format.WhiteSpace
import Reprint.Proofs.Unparse.Plain

/-!
# The trivia that is kept

Under the default style the walk keeps the trivia of a tree in its order, each
piece as the document that its own tree is retraced to.  A piece is dropped only
if the leaf before it is trivia too (`chosen_kept_raw`): whether the last piece of
the document is trivia is all that the walk looks at, and that implies that the
last leaf was.  Where no two pieces of trivia are neighbours, all of them are kept.

Inside trivia nothing is kept, for there a slot takes blank text and nothing else.
-/

namespace Reprint

namespace Doc

mutual

/-- The trivia that the slots of a document keep, in order and at every depth. -/
def kept : Doc → List Doc
  | .empty | .leaf _ => []
  | .group body => body.kept
  | .indent _ body => body.kept
  | .seq parts => keptAll parts
  | .join items separator => keptAll items ++ separator.kept
  | .after spacing => spacing.kept
  | .before spacing => spacing.kept
  | .slot spacing trivia _ => keptIn spacing ++ trivia.toList ++ keptIn trivia
termination_by structural d => d

def keptAll : List Doc → List Doc
  | [] => []
  | d :: ds => d.kept ++ keptAll ds
termination_by structural ds => ds

def keptIn : Option Doc → List Doc
  | none => []
  | some d => d.kept
termination_by structural d => d

end

theorem keptAll_eq_flatMap (ds : List Doc) : keptAll ds = ds.flatMap kept := by
  induction ds with
  | nil => rfl
  | cons d ds ih => rw [keptAll, ih, List.flatMap_cons]

@[simp] theorem kept_concat (ds : List Doc) : (concat ds).kept = ds.flatMap kept :=
  flatMap_concat rfl (fun parts => by rw [kept, keptAll_eq_flatMap]) ds

end Doc

/-! ## Choices -/

section Choices

variable {doc : Tree → Doc → Prop}

/-- Documents for the trivia among some leaves, in order.  Trivia may be left out
only behind trivia; the flag says whether trivia stands before the first leaf. -/
inductive Chosen (doc : Tree → Doc → Prop) : Bool → List Child → List Doc → Prop
  | nil {before : Bool} : Chosen doc before [] []
  | other {before : Bool} {c : Child} {cs : List Child} {ds : List Doc} :
      c.isTrivia = false → Chosen doc false cs ds → Chosen doc before (c :: cs) ds
  | kept {before : Bool} {label : Option String} {body : Tree} {d : Doc} {cs : List Child}
      {ds : List Doc} :
      doc body d → Chosen doc true cs ds → Chosen doc before (.trivia label body :: cs) (d :: ds)
  | dropped {label : Option String} {body : Tree} {cs : List Child} {ds : List Doc} :
      Chosen doc true cs ds → Chosen doc true (.trivia label body :: cs) ds

/-- Whether trivia stands behind some leaves, or before them if there are none. -/
def endsInTrivia : Bool → List Child → Bool
  | before, [] => before
  | _, c :: cs => endsInTrivia c.isTrivia cs

theorem endsInTrivia_append (before : Bool) (cs ds : List Child) :
    endsInTrivia before (cs ++ ds) = endsInTrivia (endsInTrivia before cs) ds := by
  induction cs generalizing before with
  | nil => rfl
  | cons c cs ih => exact ih c.isTrivia

theorem endsInTrivia_of_plain {cs : List Child} (plain : ∀ c ∈ cs, c.isTrivia = false) :
    endsInTrivia false cs = false := by
  induction cs with
  | nil => rfl
  | cons c cs ih =>
    obtain ⟨first, others⟩ := List.forall_mem_cons.1 plain
    rw [endsInTrivia, first, ih others]

theorem endsInTrivia_mono {cs : List Child} (behind : endsInTrivia false cs) (before : Bool) :
    endsInTrivia before cs := by
  cases cs with
  | nil => cases behind
  | cons c cs => exact behind

namespace Chosen

variable {before : Bool} {cs cs' : List Child} {ds ds' : List Doc}

theorem mono (chosen : Chosen doc false cs ds) (before : Bool) : Chosen doc before cs ds := by
  cases chosen with
  | nil => exact .nil
  | other plain rest => exact .other plain rest
  | kept own rest => exact .kept own rest

theorem append (first : Chosen doc before cs ds) (second : Chosen doc (endsInTrivia before cs) cs' ds') :
    Chosen doc before (cs ++ cs') (ds ++ ds') := by
  induction first with
  | nil => exact second
  | @other _ c _ _ plain _ ih => exact .other plain (ih (plain ▸ second))
  | kept own _ ih => exact .kept own (ih second)
  | dropped _ ih => exact .dropped (ih second)

/-- Nothing is chosen where there is no trivia. -/
theorem eq_nil (chosen : Chosen doc before cs ds) (none : ∀ c ∈ cs, c.isTrivia = false) : ds = [] := by
  induction chosen with
  | nil => rfl
  | other _ _ ih => exact ih fun c member => none c (List.mem_cons_of_mem _ member)
  | kept | dropped => cases none _ List.mem_cons_self

/-- Where trivia never follows trivia, all of it is chosen. -/
theorem forall₂ (chosen : Chosen doc before cs ds)
    (apart : cs.IsChain fun c d => ¬ (c.isTrivia ∧ d.isTrivia))
    (first : before → ∀ c ∈ cs.head?, c.isTrivia = false) :
    List.Forall₂ doc (cs.filterMap Child.trivia?) ds := by
  induction chosen with
  | nil => exact .nil
  | @other _ c cs _ plain _ ih =>
    have token : c.trivia? = none := by
      cases c with
      | token | node => rfl
      | trivia => cases plain
    rw [List.filterMap_cons_none token]
    exact ih apart.of_cons nofun
  | @kept _ label body _ cs _ own _ ih =>
    refine .cons own (ih apart.of_cons fun _ c member => ?_)
    have next := List.isChain_cons.1 apart |>.1 c member
    simpa [Child.isTrivia] using next
  | dropped => cases first rfl _ rfl

end Chosen

end Choices

/-! ## Trivia at every depth -/

/-- If no trivia is found inside trivia, all trivia of a child is among its leaves. -/
theorem Child.trivia_parts (x : Child)
    (plain : ∀ c ∈ x.leaves, ∀ body ∈ c.trivia?, ∀ y ∈ body.leaves, y.isTrivia = false) :
    x.parts.filterMap Child.trivia? = x.leaves.filterMap Child.trivia? := by
  have tree : ∀ body : Tree,
      (∀ x ∈ body.children, x.parts.filterMap Child.trivia? = x.leaves.filterMap Child.trivia?) →
      body.parts.filterMap Child.trivia? = body.leaves.filterMap Child.trivia? := by
    intro body all
    rw [Node.parts, Node.leaves, partsAll_eq_flatMap, leavesAll_eq_flatMap, List.filterMap_flatMap,
      List.filterMap_flatMap]
    exact List.flatMap_congr all
  have deeper : ∀ {body : Tree} {x c : Child}, x ∈ body.children → c ∈ x.leaves → c ∈ body.leaves := by
    intro body x c member leaf
    rw [Node.leaves, leavesAll_eq_flatMap]
    exact List.mem_flatMap.2 ⟨x, member, leaf⟩
  induction x with
  | token => rfl
  | node label body ih =>
    rw [Child.parts_eq_cons rfl, Child.leaves_node, List.filterMap_cons_none rfl]
    rw [Child.leaves_node] at plain
    exact tree body fun x member => ih x member fun c leaf => plain c (deeper member leaf)
  | trivia label body ih =>
    have none := plain _ List.mem_cons_self body rfl
    have inside : body.parts.filterMap Child.trivia? = [] := by
      rw [tree body ?_, List.filterMap_eq_nil_iff]
      · exact fun c leaf => Child.trivia?_eq_none.2 (none c leaf)
      · refine fun x member => ih x member fun c leaf inner found => ?_
        rw [Child.trivia?_eq_none.2 (none c (deeper member leaf))] at found
        cases found
    have own : (Child.trivia label body).trivia? = some body := rfl
    rw [Child.parts_eq_cons rfl, List.filterMap_cons_some own, inside, Child.leaves,
      List.filterMap_cons_some own, List.filterMap_nil]

namespace Unparse

/-! ## The walk -/

/-- The document of what stood in a slot. -/
def Retraced (g : Grammar) (source : String) (body : Tree) (d : Doc) : Prop :=
  ∃ a, (Walk.plain g source).node body true = .fits a ∧ a.finish = .ok d

/-- The pieces of an assembly keep trivia of the leaves that were used. -/
structure Keeps (g : Grammar) (source : String) (inTrivia : Bool) (used : List Child) (a : Assembly) :
    Prop where
  chosen : Chosen (Retraced g source) false used (a.docs.flatMap Doc.kept)
  plain : inTrivia → ∀ c ∈ used, c.isTrivia = false
  last : a.lastWasTrivia → endsInTrivia false used
  empty : a.docs = [] → used = []

namespace Keeps

variable {g : Grammar} {source : String} {inTrivia : Bool} {used : List Child} {a b : Assembly}

theorem start : Keeps g source inTrivia [] {} :=
  ⟨.nil, fun _ => List.forall_mem_nil _, nofun, fun _ => rfl⟩

/-- Nothing is kept inside trivia. -/
theorem flatMap_kept (keeps : Keeps g source true used a) : a.docs.flatMap Doc.kept = [] :=
  keeps.chosen.eq_nil (keeps.plain rfl)

theorem unflagged (keeps : Keeps g source true used a) : a.lastWasTrivia = false := by
  by_contra flag
  have behind := keeps.last (Bool.not_eq_false _ ▸ flag)
  rw [endsInTrivia_of_plain (keeps.plain rfl)] at behind
  cases behind

/-- A piece for the leaves behind. -/
theorem push (keeps : Keeps g source inTrivia used a) (d : Doc) (trivia : Bool) (more : List Child)
    (chosen : Chosen (Retraced g source) (endsInTrivia false used) more d.kept)
    (plain : inTrivia → ∀ c ∈ more, c.isTrivia = false)
    (last : trivia → endsInTrivia false (used ++ more)) :
    Keeps g source inTrivia (used ++ more) (a.push d trivia) where
  chosen := by
    rw [Assembly.docs_push, List.flatMap_append, List.flatMap_singleton]
    exact keeps.chosen.append chosen
  plain inside := List.forall_mem_append.2 ⟨keeps.plain inside, plain inside⟩
  last flag := last (Assembly.lastWasTrivia_push a d trivia ▸ flag)
  empty none := by simp at none

/-- A piece for a leaf that is no trivia. -/
theorem pushOther (keeps : Keeps g source inTrivia used a) {d : Doc} {trivia : Bool} {c : Child}
    (other : c.isTrivia = false) (nothing : d.kept = []) (last : trivia = false) :
    Keeps g source inTrivia (used ++ [c]) (a.push d trivia) := by
  refine keeps.push _ _ [c] ?_ (fun _ => List.forall_mem_singleton.2 other) fun flag => ?_
  · rw [nothing]
    exact .other other .nil
  · rw [last] at flag
    cases flag

theorem addControl (keeps : Keeps g source inTrivia used a) {d : Doc} (nothing : d.kept = []) :
    Keeps g source inTrivia used (a.addControl d) := by
  have pushed := keeps.push d a.lastWasTrivia [] (by rw [nothing]; exact .nil)
    (fun _ => List.forall_mem_nil _)
  rw [List.append_nil] at pushed
  exact pushed keeps.last

/-- What the tree of a child keeps is merged behind. -/
theorem merge (keeps : Keeps g source inTrivia used a) {inner : Bool} {more : List Child}
    {other : Assembly} (inside : Keeps g source inner more other) (mode : inTrivia → inner)
    (merged : a.merge other = .ok b) : Keeps g source inTrivia (used ++ more) b := by
  obtain ⟨_, pieces, _, flag⟩ := Assembly.exists_of_merge merged
  refine ⟨?_, ?_, ?_, ?_⟩
  · rw [pieces, List.flatMap_append]
    exact keeps.chosen.append (inside.chosen.mono _)
  · exact fun trivia =>
      List.forall_mem_append.2 ⟨keeps.plain trivia, inside.plain (mode trivia)⟩
  · rw [flag, endsInTrivia_append]
    split_ifs with none
    · rw [inside.empty none]
      exact keeps.last
    · exact fun own => endsInTrivia_mono (inside.last own) _
  · rw [pieces]
    intro none
    obtain ⟨first, second⟩ := List.append_eq_nil_iff.1 none
    rw [keeps.empty first, inside.empty second, List.append_nil]

end Keeps

section Steps

variable {g : Grammar} {source : String}

/-- What the tree of a child keeps. -/
def KeptIn (g : Grammar) (source : String) (inTrivia : Bool) : Child → Prop
  | .token .. => True
  | .node _ body => ((Walk.plain g source).node body inTrivia).Holds True
      (Keeps g source (inTrivia || g.isTrivia body.rule) body.leaves)
  | .trivia _ body => ((Walk.plain g source).node body true).Holds True (Keeps g source true body.leaves)

theorem kept_usualSlot (rule : String) (sep : Separator) : (({} : Style).usualSlot rule sep).kept = [] := by
  cases sep <;> rfl

theorem keeps_kept {label : Option String} {body : Tree} {used : List Child} {a inner : Assembly} {d : Doc}
    {required : Bool} (kept : KeptIn g source false (.trivia label body))
    (walked : (Walk.plain g source).node body true = .fits inner) (finished : inner.finish = .ok d)
    (keeps : Keeps g source false used a) :
    Keeps g source false (used ++ [.trivia label body]) (a.addTrivia (.triviaSlot d required)) := by
  have inside := kept
  rw [KeptIn, walked] at inside
  have nothing : d.kept = [] := by
    rw [(Assembly.finish_eq_ok.1 finished).2, Doc.kept_concat]
    exact Keeps.flatMap_kept inside
  have single : (Doc.triviaSlot d required).kept = [d] := by simp [Doc.kept, Doc.keptIn, nothing]
  refine keeps.push _ _ _ ?_ nofun fun _ => ?_
  · rw [single]
    exact .kept ⟨inner, walked, finished⟩ .nil
  · rw [endsInTrivia_append]
    rfl

/-- Trivia is dropped only if the last piece is trivia. -/
theorem keeps_dropped {rule : String} {label : Option String} {body : Tree} {used : List Child}
    {a : Assembly} (sep : Separator)
    (dropped : ((Walk.plain g source).context rule false).keeps a.lastWasTrivia body = .ok false)
    (keeps : Keeps g source false used a) :
    Keeps g source false (used ++ [.trivia label body])
      (a.addControl (({} : Style).usualSlot rule sep)) := by
  have flag : a.lastWasTrivia := by
    rw [keeps_plain rfl] at dropped
    simpa using Except.ok.inj dropped
  refine keeps.push _ _ _ ?_ nofun fun _ => ?_
  · rw [keeps.last flag, kept_usualSlot]
    exact .dropped .nil
  · rw [endsInTrivia_append]
    rfl

/-- Whatever the walk does next inside a rule, it keeps trivia of the leaves. -/
theorem carried_keeps {children : List Child} (rule : String) {inTrivia : Bool}
    (kept : ∀ c ∈ children, KeptIn g source inTrivia c) :
    Carried (Walk.plain g source) rule inTrivia (fun _ => True) (fun _ => True) children
      fun front => Keeps g source inTrivia (leavesAll front) := by
  constructor
  case empty =>
    intro sep front a _ _ keeps
    exact keeps.addControl (kept_usualSlot rule sep)
  case blank =>
    intro sep front rest span a inside _ _ _ _ keeps
    subst inside
    rw [leavesAll_concat]
    exact keeps.pushOther rfl (kept_usualSlot rule sep) keeps.unflagged
  case kept =>
    intro sep front rest label body a inner d outside _ split walked finished keeps
    subst outside
    rw [leavesAll_concat]
    exact keeps_kept (kept _ (by rw [split]; simp)) walked finished keeps
  case dropped =>
    intro sep front rest label body a outside _ _ _ unwanted keeps
    subst outside
    rw [leavesAll_concat]
    exact keeps_dropped sep unwanted keeps
  case token =>
    intro front rest label span text a _ _ keeps
    rw [leavesAll_concat]
    refine keeps.pushOther rfl ?_ rfl
    unfold Context.token
    split_ifs <;> rfl
  case node =>
    intro front rest label body a inner b split _ walked merged keeps
    have inside : KeptIn g source inTrivia (.node label body) := kept _ (by rw [split]; simp)
    rw [KeptIn, walked] at inside
    rw [leavesAll_concat, Child.leaves_node]
    exact keeps.merge inside (fun trivia => by rw [trivia]; rfl) merged
  case direct =>
    intro _ side selector d front a b member
    rw [directives_plain rfl] at member
    cases member
  case normal => exact fun _ label literal => Style.treatment_of_isBlank rfl rule label literal

variable (unsuppressed : g.Unsuppressed)
include unsuppressed

/-- A node keeps trivia of its leaves if its children do. -/
theorem keeps_node (body : Tree) (inTrivia : Bool)
    (kept : ∀ c ∈ body.children, KeptIn g source (inTrivia || g.isTrivia body.rule) c) :
    ((Walk.plain g source).node body inTrivia).Holds True
      (Keeps g source (inTrivia || g.isTrivia body.rule) body.leaves) := by
  let R (front : List Child) : Assembly → Prop :=
    Keeps g source (inTrivia || g.isTrivia body.rule) (leavesAll front)
  exact holds_node (R := R) .start fun r found =>
    ⟨_, _, carried_keeps r.name kept, drawn_of_unsuppressed (unsuppressed.of_getElem? found)⟩

theorem keptIn (c : Child) (inTrivia : Bool) : KeptIn g source inTrivia c := by
  induction c generalizing inTrivia with
  | token => trivial
  | node label body ih => exact keeps_node unsuppressed body inTrivia fun c member => ih c member _
  | trivia label body ih => exact keeps_node unsuppressed body true fun c member => ih c member _

/-- What was retraced inside trivia has no trivia. -/
theorem Retraced.plain {body : Tree} {d : Doc} (retraced : Retraced g source body d) :
    ∀ c ∈ body.leaves, c.isTrivia = false := by
  obtain ⟨a, walked, _⟩ := retraced
  have keeps : KeptIn g source true (.trivia none body) := keptIn unsuppressed _ _
  rw [KeptIn, walked] at keeps
  exact keeps.plain rfl

end Steps

end Unparse

/-! ## Raw documents -/

/-- Under the default style the trivia in the document of a tree is trivia of the
tree, in order and with the documents of their own, and none of it was left out
except behind other trivia.  If no two pieces of trivia are neighbours among the
leaves, it is all trivia of the tree, at every depth, one document for each. -/
theorem chosen_kept_raw {g : Grammar} (unsuppressed : g.Unsuppressed) {rule source : String}
    {tree : Tree} {raw : Doc} (walked : Unparser.raw ⟨g, {}⟩ rule tree source = .ok raw) :
    Chosen (Unparse.Retraced g source) false tree.leaves raw.kept ∧
      ((tree.leaves.IsChain fun c d => ¬ (c.isTrivia ∧ d.isTrivia)) →
        List.Forall₂ (Unparse.Retraced g source) (tree.parts.filterMap Child.trivia?) raw.kept) := by
  obtain ⟨a, fits, rfl⟩ := Unparser.exists_of_raw walked
  have keeps : Unparse.KeptIn g source false (.node none tree) := Unparse.keptIn unsuppressed _ _
  rw [Unparse.KeptIn, fits] at keeps
  have chosen := keeps.chosen
  rw [← Doc.kept_concat] at chosen
  refine ⟨chosen, fun apart => ?_⟩
  have all := chosen.forall₂ apart nofun
  have inside : ∀ body ∈ tree.leaves.filterMap Child.trivia?, ∀ y ∈ body.leaves, y.isTrivia = false := by
    have both := all.imp fun body d retraced => And.intro (retraced.plain unsuppressed) retraced
    exact ((List.forall₂_and_left _ _).1 both).1
  have same := Child.trivia_parts (.node none tree) ?_
  · rw [Child.parts_eq_cons rfl, List.filterMap_cons_none rfl, Child.leaves_node] at same
    rwa [same]
  · rw [Child.leaves_node]
    exact fun c leaf body found => inside body (List.mem_filterMap.2 ⟨c, leaf, found⟩)

/-! ## Two comments -/

/-- A letter that may be followed by a comment, and a letter that may be preceded by one. -/
def remarks : Grammar where
  rules := [
    ⟨"pair", [⟨[{ term := .rule 1 }, { slot := .allowed, term := .literal "b" }], .none⟩]⟩,
    ⟨"letter", [⟨[{ term := .literal "a" }], .allowed⟩]⟩,
    ⟨"_", [⟨[{ term := .literal "#" }], .none⟩]⟩]
  trivia := some 2

/-- A comment of one character at an offset. -/
def remark (offset : Nat) : Child :=
  .trivia none ⟨2, ⟨offset, offset + 1⟩, [.token none ⟨offset, offset + 1⟩]⟩

/-- The tree of a pair with a comment. -/
def oneRemark : Tree :=
  ⟨0, ⟨0, 3⟩, [.node none ⟨1, ⟨0, 2⟩, [.token none ⟨0, 1⟩, remark 1]⟩, .token none ⟨2, 3⟩]⟩

/-- The tree of a pair with two comments. -/
def twoRemarks : Tree :=
  ⟨0, ⟨0, 4⟩, [.node none ⟨1, ⟨0, 2⟩, [.token none ⟨0, 1⟩, remark 1]⟩, remark 2, .token none ⟨3, 4⟩]⟩

theorem unsuppressed_remarks : remarks.Unsuppressed := by
  unfold Grammar.Unsuppressed Throughout
  decide

theorem chosen_kept_raw_oneRemark :
    remarks.Unsuppressed ∧ remarks.parse "pair" "a#b" = .ok oneRemark ∧
      (oneRemark.leaves.IsChain fun c d => ¬ (c.isTrivia ∧ d.isTrivia)) ∧
      ∃ raw, Unparser.raw ⟨remarks, {}⟩ "pair" oneRemark "a#b" = .ok raw ∧
        List.Forall₂ (Unparse.Retraced remarks "a#b") (oneRemark.parts.filterMap Child.trivia?) raw.kept := by
  have parsed : remarks.parse "pair" "a#b" = .ok oneRemark := by with_unfolding_all rfl
  have apart : oneRemark.leaves.IsChain fun c d => ¬ (c.isTrivia ∧ d.isTrivia) := by decide
  let raw : Doc := .seq [.text "a", .triviaSlot (.comment "#") false, .spacingSlot .empty false, .text "b"]
  have walked : Unparser.raw ⟨remarks, {}⟩ "pair" oneRemark "a#b" = .ok raw := by with_unfolding_all rfl
  exact ⟨unsuppressed_remarks, parsed, apart, raw, walked,
    (chosen_kept_raw unsuppressed_remarks walked).2 apart⟩

/-- The slot of the second letter finds a comment right behind the one that the
rule of the first letter has kept, and drops it. -/
theorem kept_raw_twoRemarks :
    remarks.Unsuppressed ∧ remarks.parse "pair" "a##b" = .ok twoRemarks ∧
      ∃ raw, Unparser.raw ⟨remarks, {}⟩ "pair" twoRemarks "a##b" = .ok raw ∧
        raw.kept.length = 1 ∧ (twoRemarks.parts.filterMap Child.trivia?).length = 2 ∧
        raw.resolve.render {} = "a#b" := by
  have parsed : remarks.parse "pair" "a##b" = .ok twoRemarks := by with_unfolding_all rfl
  let raw : Doc := .seq [.text "a", .triviaSlot (.comment "#") false, .spacingSlot .empty false, .text "b"]
  have walked : Unparser.raw ⟨remarks, {}⟩ "pair" twoRemarks "a##b" = .ok raw := by with_unfolding_all rfl
  have resolved : raw.resolve = .seq [.text "a", .comment "#", .text "b"] := by cbv
  exact ⟨unsuppressed_remarks, parsed, raw, walked, rfl, rfl, resolved ▸ rfl⟩

end Reprint
