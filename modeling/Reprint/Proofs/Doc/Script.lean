import Reprint.Proofs.Doc.Skeleton
import Reprint.Text.Blank

/-!
# The characters of a document

The script of a document is the text of its leaves and of the trivia that its
slots keep, reduced to the characters that are looked at: all of them, or those
that are not white space.  Spacing that adds no such character is unseen, and
where all spacing is unseen resolution keeps the script (`script_resolve`).
-/

namespace Reprint

/-- The characters of a leaf on a line that is not broken. -/
def Leaf.plain : Leaf → List Char
  | .text s | .comment s => s.toList
  | .line | .space => [' ']
  | .softline => []
  | .hardline blanks => List.replicate (blanks.toNat + 1) '\n'

/-- Whether a character is no white space. -/
def Text.inked (c : Char) : Bool := !isBlank c

namespace Doc

/-- The characters of leaves that are looked at. -/
def scriptOf (keep : Char → Bool) (strands : List Strand) : List Char :=
  strands.flatMap fun s => s.leaf.plain.filter keep

/-- The characters of a document that are looked at. -/
def script (keep : Char → Bool) (d : Doc) : List Char := scriptOf keep d.skeleton

/-- Resolved, the document shows no character that is looked at. -/
def Unseen (keep : Char → Bool) (d : Doc) : Prop :=
  ∀ s ∈ (resolve d).leaves, s.leaf.plain.filter keep = []

variable (keep : Char → Bool)

theorem scriptOf_loose (xs : List Strand) : scriptOf keep (xs.map Strand.loose) = scriptOf keep xs := by
  rw [scriptOf, List.flatMap_map]
  rfl

/-- What encloses a document has no part in its script. -/
theorem scriptOf_strands (kept : Doc → List Strand) (d : Doc) (around around' : List Wrapper) :
    scriptOf keep (d.strands kept around) = scriptOf keep (d.strands kept around') := by
  rw [← scriptOf_loose, loose_strands kept d around around', scriptOf_loose]

theorem scriptOf_flatMap {α : Type} (f : α → List Strand) (xs : List α) :
    scriptOf keep (xs.flatMap f) = xs.flatMap fun x => scriptOf keep (f x) := List.flatMap_assoc

@[simp] theorem script_concat (ds : List Doc) : (concat ds).script keep = ds.flatMap (script keep) := by
  rw [script, skeleton, strands_concat, scriptOf_flatMap]
  rfl

@[simp] theorem script_group (body : Doc) : (Doc.group body).script keep = body.script keep :=
  scriptOf_strands keep _ body _ _

@[simp] theorem script_indent (amount : Option UInt32) (body : Doc) :
    (Doc.indent amount body).script keep = body.script keep :=
  scriptOf_strands keep _ body _ _

@[simp] theorem script_join (items : List Doc) (separator : Doc) :
    (Doc.join items separator).script keep = items.flatMap (script keep) := by
  rw [script, skeleton, strands_join, scriptOf_flatMap]
  rfl

theorem flatMap_script_items (d : Doc) : d.items.flatMap (script keep) = d.script keep := by
  rw [script, skeleton, ← flatMap_strands_items, scriptOf_flatMap]
  rfl

@[simp] theorem script_leaf (l : Leaf) : (Doc.leaf l).script keep = l.plain.filter keep := by
  simp [script, skeleton, strands, scriptOf]

theorem script_triviaSlot (trivia : Doc) (required : Bool) :
    (Doc.triviaSlot trivia required).script keep = scriptOf keep (resolve trivia).leaves :=
  scriptOf_loose keep _

variable {keep}

/-- Resolution keeps the script if the spacing and the separators of a document
are unseen. -/
theorem script_resolve {d : Doc}
    (governed : d.Governed (Meets (Unseen keep) fun _ => True) (Unseen keep)) :
    scriptOf keep (resolve d).leaves = d.script keep := by
  have woven := woven_resolve (Q := fun l => l.plain.filter keep = []) (fun unseen => unseen)
    (fun _ unseen => unseen) (fun _ unseen => ⟨trivial, unseen⟩) governed
  refine (woven.flatMap_eq ?_ fun _ unseen => unseen).symm
  intro x y keeps
  cases keeps with
  | same | loose => rfl
  | newline => rfl

/-! ## Blank documents -/

mutual

/-- Whether a document holds nothing but white space, and no control nodes. -/
def isBlank : Doc → Bool
  | .empty | .line | .space | .softline | .hardline _ => true
  | .text s => Text.allBlank s
  | .group body => body.isBlank
  | .indent _ body => body.isBlank
  | .seq parts => allBlank parts
  | .join items separator => allBlank items && separator.isBlank
  | .comment _ | .after _ | .before _ | .slot .. => false
termination_by structural d => d

/-- Whether the same holds of all documents of a list. -/
def allBlank : List Doc → Bool
  | [] => true
  | d :: ds => d.isBlank && allBlank ds
termination_by structural ds => ds

end

theorem allBlank_iff {ds : List Doc} : allBlank ds ↔ ∀ d ∈ ds, d.isBlank := by
  induction ds with
  | nil => simp [allBlank]
  | cons d ds ih => rw [allBlank, Bool.and_eq_true, ih, List.forall_mem_cons]

theorem filter_inked_of_allBlank {s : String} (blank : Text.allBlank s) : s.toList.filter Text.inked = [] := by
  rw [List.filter_eq_nil_iff]
  intro c member
  have own : Text.isBlank c := List.all_eq_true.1 blank c member
  simp [Text.inked, own]

theorem filter_inked_replicate_newline (n : Nat) : (List.replicate n '\n').filter Text.inked = [] := by
  have newline : Text.inked '\n' = false := by decide
  simp [newline]

theorem filter_inked_replicate_space (n : Nat) : (List.replicate n ' ').filter Text.inked = [] := by
  have space : Text.inked ' ' = false := by decide
  simp [space]

/-- Only what is written shows a character that is no white space. -/
theorem filter_inked_plain {l : Leaf} (written : l.isWritten = false) : l.plain.filter Text.inked = [] := by
  cases l with
  | text | comment => cases written
  | line | space => exact filter_inked_replicate_space 1
  | softline => rfl
  | hardline blanks => exact filter_inked_replicate_newline _

/-- A blank document has no leaf with a character that is no white space, and is
governed by nothing but the separators of its joins. -/
theorem isBlank_strands {d : Doc} (blank : d.isBlank) (kept : Doc → List Strand)
    (around : List Wrapper) :
    ∀ s ∈ d.strands kept around, s.leaf.plain.filter Text.inked = [] := by
  induction d generalizing around with
  | empty => exact List.forall_mem_nil _
  | leaf l =>
    refine List.forall_mem_singleton.2 ?_
    cases l with
    | text s => exact filter_inked_of_allBlank blank
    | comment => cases blank
    | _ => exact filter_inked_plain rfl
  | group body ih => exact ih blank _
  | indent amount body ih => exact ih blank _
  | seq parts ih =>
    rw [strands_seq]
    intro s member
    obtain ⟨d, inside, member⟩ := List.mem_flatMap.1 member
    exact ih d inside (allBlank_iff.1 blank d inside) around s member
  | join items separator ih _ =>
    rw [strands_join]
    intro s member
    obtain ⟨d, inside, member⟩ := List.mem_flatMap.1 member
    exact ih d inside (allBlank_iff.1 (Bool.and_eq_true_iff.1 blank).1 d inside) around s member
  | after | before | slot => cases blank

theorem isBlank_governed {d : Doc} (blank : d.isBlank) {separator : Doc → Prop}
    (separators : ∀ s : Doc, s.isBlank → s.nesting < d.nesting → separator s) :
    d.Governed (fun _ => False) separator := by
  induction d with
  | empty | leaf => trivial
  | group body ih => exact ih blank separators
  | indent amount body ih => exact ih blank separators
  | seq parts ih =>
    refine governedAll_iff.2 fun d member => ih d member (allBlank_iff.1 blank d member) ?_
    intro s own held
    exact separators s own (held.trans_le (nestingAll_le_iff.1 (Nat.le_refl _) d member))
  | join items between ih _ =>
    obtain ⟨inner, own⟩ := Bool.and_eq_true_iff.1 blank
    refine ⟨governedAll_iff.2 fun d member => ih d member (allBlank_iff.1 inner d member) ?_, ?_⟩
    · intro s own held
      have bound := nestingAll_le_iff.1 (Nat.le_refl (nestingAll items)) d member
      exact separators s own (held.trans_le (bound.trans (Nat.le_max_left _ _)))
    · exact separators between own (Nat.le_max_right _ _)
  | after | before | slot => cases blank

/-- A blank document is unseen where white space is not looked at. -/
theorem unseen_of_isBlank {d : Doc} (blank : d.isBlank) : Unseen Text.inked d := by
  induction nested : d.nesting using Nat.strong_induction_on generalizing d with
  | _ n ih =>
    have governed : d.Governed (Meets (fun _ => False) fun _ => True) (Unseen Text.inked) := by
      refine (isBlank_governed blank ?_).mono (fun _ none => none.elim) fun _ held => held
      exact fun s own held => ih _ (nested ▸ held) own rfl
    have woven := woven_resolve (Q := fun l => l.plain.filter Text.inked = []) (fun unseen => unseen)
      (fun _ none => none.elim) (fun _ unseen => ⟨trivial, unseen⟩) governed
    refine woven.free_of_free ?_ (isBlank_strands blank _ [])
    intro x y unseen keeps
    cases keeps with
    | same | loose => exact unseen
    | newline => exact unseen

end Doc

end Reprint
