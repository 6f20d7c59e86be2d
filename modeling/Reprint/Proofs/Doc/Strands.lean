import Reprint.Proofs.Doc.Induction
import Reprint.Proofs.Woven

/-!
# The leaves of a document

A strand is a leaf of a document with the groups and indentations around it.
White space may move into an indentation, so only what is written keeps track of
what encloses it.

The leaves of a document are its strands outside control nodes.  Its skeleton
counts beside them what the slots keep of the source: the leaves of the trivia,
resolved.
-/

namespace Reprint

/-- What may enclose a part of a document. -/
inductive Wrapper where
  | group
  | indent (amount : Option UInt32)
  deriving DecidableEq, Repr

/-- A leaf of a document. -/
structure Strand where
  /-- What encloses the leaf, outermost first, where that is kept track of. -/
  around : Option (List Wrapper)
  leaf : Leaf
  deriving DecidableEq, Repr

/-- Whether a leaf is written as it stands. -/
def Leaf.isWritten : Leaf → Bool
  | .text _ | .comment _ => true
  | _ => false

namespace Strand

/-- A leaf inside wrappers. -/
def within (around : List Wrapper) (l : Leaf) : Strand :=
  ⟨if l.isWritten then some around else none, l⟩

/-- The leaf alone. -/
def loose (s : Strand) : Strand := ⟨none, s.leaf⟩

/-- What becomes of a strand: it stays as it is, it comes to stand inside some
wrappers if none are kept track of, or it is a line end of its own written as
text and becomes a hard line end. -/
inductive Keeps : Strand → Strand → Prop
  | same (s : Strand) : Keeps s s
  | loose (around : Option (List Wrapper)) (l : Leaf) : Keeps ⟨none, l⟩ ⟨around, l⟩
  | newline (around : List Wrapper) (around' : Option (List Wrapper)) :
      Keeps ⟨some around, .text "\n"⟩ ⟨around', .hardline 0⟩

@[simp] theorem leaf_within (around : List Wrapper) (l : Leaf) : (within around l).leaf = l := rfl

end Strand

namespace Doc

mutual

/-- The leaves of a document inside wrappers, in order.  `kept` says what
stands for the trivia of a slot; other control nodes and the separators of joins
have no leaves. -/
def strands (kept : Doc → List Strand) (around : List Wrapper) : Doc → List Strand
  | .empty | .after _ | .before _ | .slot _ none _ => []
  | .leaf l => [.within around l]
  | .group body => body.strands kept (around ++ [.group])
  | .indent amount body => body.strands kept (around ++ [.indent amount])
  | .seq parts => strandsAll kept around parts
  | .join items _ => strandsAll kept around items
  | .slot _ (some trivia) _ => kept trivia
termination_by structural d => d

def strandsAll (kept : Doc → List Strand) (around : List Wrapper) : List Doc → List Strand
  | [] => []
  | d :: ds => d.strands kept around ++ strandsAll kept around ds
termination_by structural ds => ds

end

/-- The leaves of a document outside control nodes. -/
def leaves (d : Doc) : List Strand := d.strands (fun _ => []) []

/-- What a slot shows of its trivia: the leaves of the resolved trivia. -/
def remains (settle : Doc → Doc) (trivia : Doc) : List Strand :=
  (settle trivia).leaves.map Strand.loose

/-- The leaves of a document outside control nodes and those of the resolved
trivia of its slots, in order. -/
def skeleton (d : Doc) : List Strand := d.strands (remains resolve) []

/-! ## Sequences -/

section Sequences

variable (kept : Doc → List Strand) (around : List Wrapper)

theorem strandsAll_eq_flatMap (ds : List Doc) :
    strandsAll kept around ds = ds.flatMap (strands kept around) := by
  induction ds with
  | nil => rfl
  | cons d ds ih => rw [strandsAll, List.flatMap_cons, ih]

@[simp] theorem strands_seq (parts : List Doc) :
    (Doc.seq parts).strands kept around = parts.flatMap (strands kept around) := by
  rw [strands, strandsAll_eq_flatMap]

@[simp] theorem strands_join (items : List Doc) (separator : Doc) :
    (Doc.join items separator).strands kept around = items.flatMap (strands kept around) := by
  rw [strands, strandsAll_eq_flatMap]

theorem strands_of_isEmpty {d : Doc} (empty : d.isEmpty) : d.strands kept around = [] := by
  cases d <;> simp_all [isEmpty, strands]

theorem flatMap_strands_items (d : Doc) :
    d.items.flatMap (strands kept around) = d.strands kept around :=
  flatMap_items rfl (strands_seq kept around) d

@[simp] theorem strands_concat (ds : List Doc) :
    (concat ds).strands kept around = ds.flatMap (strands kept around) :=
  flatMap_concat rfl (strands_seq kept around) ds

end Sequences

/-! ## Control nodes -/

/-- What a control node shows does not depend on where it stands. -/
theorem strands_control (kept : Doc → List Strand) {d : Doc} (control : d.isControl)
    (around around' : List Wrapper) : d.strands kept around = d.strands kept around' := by
  match d with
  | .after _ | .before _ | .slot _ none _ | .slot _ (some _) _ => rfl

theorem flatMap_strands_controls (kept : Doc → List Strand) {ds : List Doc}
    (controls : ∀ d ∈ ds, d.isControl) (around around' : List Wrapper) :
    ds.flatMap (strands kept around) = ds.flatMap (strands kept around') := by
  apply List.flatMap_congr
  intro d member
  exact strands_control kept (controls d member) around around'

/-! ## Loose strands -/

/-- Without what encloses them the leaves are the same wherever a document stands. -/
theorem loose_strands (kept : Doc → List Strand) (d : Doc) (around around' : List Wrapper) :
    (d.strands kept around).map Strand.loose = (d.strands kept around').map Strand.loose := by
  induction d generalizing around around' with
  | empty => rfl
  | leaf l => rfl
  | group body ih => exact ih _ _
  | indent amount body ih => exact ih _ _
  | seq parts ih =>
    simp only [strands_seq, List.map_flatMap]
    exact List.flatMap_congr fun d member => ih d member _ _
  | join items separator ih _ =>
    simp only [strands_join, List.map_flatMap]
    exact List.flatMap_congr fun d member => ih d member _ _
  | after spacing => rfl
  | before spacing => rfl
  | slot spacing trivia required => cases trivia <;> rfl

theorem remains_eq (settle : Doc → Doc) (trivia : Doc) (around : List Wrapper) :
    remains settle trivia = ((settle trivia).strands (fun _ => []) around).map Strand.loose :=
  loose_strands _ (settle trivia) [] around

/-- What a slot shows of its trivia comes to stand inside the wrappers around it. -/
theorem forall₂_remains (settle : Doc → Doc) (trivia : Doc) (around : List Wrapper) :
    List.Forall₂ Strand.Keeps (remains settle trivia)
      ((settle trivia).strands (fun _ => []) around) := by
  rw [remains_eq settle trivia around, List.forall₂_map_left_iff, List.forall₂_same]
  intro s _
  exact .loose s.around s.leaf

end Doc

end Reprint
