import Mathlib.Data.List.TakeWhile
import Reprint.Proofs.Doc.Strands

/-!
# The parts of an opened document

Before anything is decided a document is opened: joins become sequences, and
control nodes leave the edges of groups and indentations.  What comes out is a
list of parts in canonical form (`tidy_of_mem_opened`).  Properties that a
document has through its parts carry over to them (`Hereditary.opened`), and the
leaves are the same, with those of separators added (`woven_opened`).
-/

namespace Reprint.Doc

/-- The list of parts that the rules of the reduction are applied to. -/
def opened (d : Doc) : List Doc :=
  d.expand.edges.leading ++ d.expand.edges.body.items ++ d.expand.edges.trailing

theorem resolveWith_eq (settle : Doc → Doc) (d : Doc) :
    resolveWith settle d = (assemble settle (toCells settle d.opened)).sink := rfl

/-! ## Lists cut at their edges -/

namespace Edges

/-- The three parts of a list cut at its edges give the list. -/
theorem ofParts_append (ds : List Doc) :
    (ofParts ds).leading ++ (((ds.dropWhile isLeading).reverse.dropWhile isTrailing).reverse
      ++ (ofParts ds).trailing) = ds := by
  have inner : ((ds.dropWhile isLeading).reverse.dropWhile isTrailing).reverse
      ++ ((ds.dropWhile isLeading).reverse.takeWhile isTrailing).reverse
      = ds.dropWhile isLeading := by
    rw [← List.reverse_append, List.takeWhile_append_dropWhile, List.reverse_reverse]
  rw [ofParts]
  exact (congrArg _ inner).trans List.takeWhile_append_dropWhile

/-- What is collected from a list of parts is collected from its two ends and from what is
between them. -/
theorem flatMap_ofParts {β : Type} {f : Doc → List β} (empty : f .empty = [])
    (seq : ∀ parts, f (.seq parts) = parts.flatMap f) (ds : List Doc) :
    (ofParts ds).leading.flatMap f ++ f (ofParts ds).body ++ (ofParts ds).trailing.flatMap f
      = ds.flatMap f := by
  conv_rhs => rw [← ofParts_append ds]
  simp only [ofParts, flatMap_concat empty seq, List.flatMap_append, List.append_assoc]

end Edges

theorem isControl_of_isLeading {d : Doc} (leading : d.isLeading) : d.isControl := by
  cases d <;> simp_all [isLeading, isControl]

theorem isControl_of_isTrailing {d : Doc} (trailing : d.isTrailing) : d.isControl := by
  cases d <;> simp_all [isTrailing, isControl]

theorem Edges.isControl_of_mem_ofParts {ds : List Doc} {x : Doc}
    (member : x ∈ (ofParts ds).leading ∨ x ∈ (ofParts ds).trailing) : x.isControl := by
  rcases member with member | member
  · exact isControl_of_isLeading (List.mem_takeWhile_imp member)
  · exact isControl_of_isTrailing (List.mem_takeWhile_imp (List.mem_reverse.1 member))

/-- Only control nodes are taken out at the edges. -/
theorem isControl_of_mem_edges (d : Doc) {x : Doc}
    (member : x ∈ d.edges.leading ∨ x ∈ d.edges.trailing) : x.isControl := by
  induction d with
  | group body ih => exact ih member
  | indent amount body ih => exact ih member
  | seq parts => exact Edges.isControl_of_mem_ofParts member
  | _ => simp_all [edges, isControl]

/-! ## Properties of the parts -/

section Members

variable {P : Doc → Prop}

/-- The separator comes to stand between the items as a slot. -/
theorem forall_mem_joint {separator : Doc} {gap : List Doc} (slot : P (.triviaSlot separator false))
    (all : ∀ d ∈ gap, P d) : ∀ d ∈ joint separator gap, P d := by
  intro d member
  unfold Doc.joint at member
  split at member
  · next first rest found =>
    have inGap : ∀ e ∈ first :: rest, e ∈ gap := fun e inside =>
      List.dropWhile_subset _ (found ▸ inside)
    rcases List.mem_append.1 member with before | behind
    · exact all d (List.takeWhile_subset _ before)
    · rcases List.mem_cons.1 behind with rfl | behind
      · exact all d (inGap d List.mem_cons_self)
      · rcases List.mem_cons.1 behind with rfl | behind
        · exact slot
        · exact all d (inGap d (List.mem_cons_of_mem _ behind))
  · rcases List.mem_append.1 member with before | behind
    · exact all d (List.takeWhile_subset _ before)
    · rcases List.mem_cons.1 behind with rfl | behind
      · exact slot
      · exact all d (List.dropWhile_subset _ behind)

theorem forall_mem_interleave {separator : Doc} (slot : P (.triviaSlot separator false)) (seen : Bool)
    {gap ds : List Doc} (gaps : ∀ d ∈ gap, P d) (all : ∀ d ∈ ds, P d) :
    ∀ d ∈ interleave separator seen gap ds, P d := by
  induction ds generalizing seen gap with
  | nil => exact gaps
  | cons e ds ih =>
    obtain ⟨first, others⟩ := List.forall_mem_cons.1 all
    unfold Doc.interleave
    split_ifs with empty control started
    · exact ih seen gaps others
    · refine ih seen ?_ others
      intro d member
      rcases List.mem_append.1 member with member | member
      · exact gaps d member
      · exact List.mem_singleton.1 member ▸ first
    · intro d member
      rcases List.mem_append.1 member with member | member
      · exact forall_mem_joint slot gaps d member
      · rcases List.mem_cons.1 member with rfl | member
        · exact first
        · exact ih true (List.forall_mem_nil _) others d member
    · intro d member
      rcases List.mem_append.1 member with member | member
      · exact gaps d member
      · rcases List.mem_cons.1 member with rfl | member
        · exact first
        · exact ih true (List.forall_mem_nil _) others d member

theorem Edges.forall_mem_flatten {e : Edges} (leading : ∀ x ∈ e.leading, P x) (body : P e.body)
    (trailing : ∀ x ∈ e.trailing, P x) : ∀ x ∈ e.flatten, P x := by
  intro x member
  rw [Edges.flatten] at member
  rcases List.mem_append.1 member with member | member
  · rcases List.mem_append.1 member with member | member
    · exact leading x member
    · split_ifs at member
      · cases member
      · exact List.mem_singleton.1 member ▸ body
  · exact trailing x member

end Members

/-- What a sequence has if and because its parts have it, documents put one after
the other have if each of them has it. -/
theorem holds_concat {P : Doc → Prop} (empty : P .empty)
    (seq : ∀ {parts : List Doc}, P (.seq parts) ↔ ∀ x ∈ parts, P x) {ds : List Doc}
    (all : ∀ d ∈ ds, P d) : P (concat ds) := by
  have parts : ∀ x ∈ ds.flatMap splice, P x := by
    intro x member
    obtain ⟨d, inside, member⟩ := List.mem_flatMap.1 member
    have member := List.mem_of_mem_filter member
    have holds := all d inside
    cases d with
    | seq parts => exact seq.1 holds x member
    | empty => cases member
    | _ => exact List.mem_singleton.1 member ▸ holds
  rw [concat]
  generalize ds.flatMap splice = xs at parts
  rcases xs with _ | ⟨d, _ | ⟨e, rest⟩⟩
  · exact empty
  · exact parts d List.mem_cons_self
  · exact seq.2 parts

/-- A property that a document has if and because its parts have it. -/
structure Hereditary (P : Doc → Prop) : Prop where
  group : ∀ {body}, P (.group body) → P body ∧ ∀ {body'}, P body' → P (.group body')
  indent : ∀ {amount body}, P (.indent amount body) →
    P body ∧ ∀ {body'}, P body' → P (.indent amount body')
  part : ∀ {parts}, P (.seq parts) → ∀ d ∈ parts, P d
  join : ∀ {items separator}, P (.join items separator) →
    (∀ d ∈ items, P d) ∧ P (.triviaSlot separator false)
  concat : ∀ {ds}, (∀ d ∈ ds, P d) → P (concat ds)

namespace Hereditary

variable {P : Doc → Prop} (hereditary : Hereditary P)
include hereditary

theorem items {d : Doc} (holds : P d) : ∀ x ∈ d.items, P x := by
  intro x member
  cases d with
  | seq parts => exact hereditary.part holds x member
  | empty => cases member
  | _ =>
    rw [List.mem_singleton.1 member]
    exact holds

theorem expand {d : Doc} (holds : P d) : P d.expand := by
  induction d with
  | group body ih =>
    obtain ⟨inner, back⟩ := hereditary.group holds
    exact back (ih inner)
  | indent amount body ih =>
    obtain ⟨inner, back⟩ := hereditary.indent holds
    exact back (ih inner)
  | seq parts ih =>
    rw [Doc.expand, expandAll_eq_map]
    refine hereditary.concat ?_
    intro e member
    obtain ⟨d, inside, rfl⟩ := List.mem_map.1 member
    exact ih d inside (hereditary.part holds d inside)
  | join items separator ih _ =>
    obtain ⟨inner, slot⟩ := hereditary.join holds
    rw [Doc.expand, expandAll_eq_map]
    refine hereditary.concat (forall_mem_interleave slot false (List.forall_mem_nil _) ?_)
    intro e member
    obtain ⟨d, inside, rfl⟩ := List.mem_map.1 member
    exact ih d inside (inner d inside)
  | _ => exact holds

theorem edges {d : Doc} (holds : P d) :
    (∀ x ∈ d.edges.leading, P x) ∧ P d.edges.body ∧ ∀ x ∈ d.edges.trailing, P x := by
  have nothing : P .empty := by
    have none := hereditary.concat (List.forall_mem_nil P)
    exact none
  induction d with
  | group body ih =>
    obtain ⟨inner, back⟩ := hereditary.group holds
    obtain ⟨leading, middle, trailing⟩ := ih inner
    exact ⟨leading, back middle, trailing⟩
  | indent amount body ih =>
    obtain ⟨inner, back⟩ := hereditary.indent holds
    obtain ⟨leading, middle, trailing⟩ := ih inner
    exact ⟨leading, back middle, trailing⟩
  | seq parts ih =>
    rw [Doc.edges, flattenAll_eq_flatMap]
    have flat : ∀ x ∈ parts.flatMap fun d => d.edges.flatten, P x := by
      intro x member
      obtain ⟨d, inside, member⟩ := List.mem_flatMap.1 member
      obtain ⟨leading, middle, trailing⟩ := ih d inside (hereditary.part holds d inside)
      exact Edges.forall_mem_flatten leading middle trailing x member
    have cut := Edges.ofParts_append (parts.flatMap fun d => d.edges.flatten)
    generalize parts.flatMap (fun d => d.edges.flatten) = ds at flat cut ⊢
    refine ⟨fun x member => flat x ?_, hereditary.concat fun x member => flat x ?_,
      fun x member => flat x ?_⟩
    · exact cut ▸ List.mem_append_left _ member
    · exact cut ▸ List.mem_append_right _ (List.mem_append_left _ member)
    · exact cut ▸ List.mem_append_right _ (List.mem_append_right _ member)
  | empty => simp [Doc.edges, nothing]
  | leaf l => simpa [Doc.edges] using holds
  | join items separator => simpa [Doc.edges] using holds
  | after spacing => simpa [Doc.edges, nothing] using holds
  | before spacing => simpa [Doc.edges, nothing] using holds
  | slot spacing trivia required => simpa [Doc.edges, nothing] using holds

/-- The parts of an opened document have what the document has. -/
theorem opened {d : Doc} (holds : P d) : ∀ x ∈ d.opened, P x := by
  obtain ⟨leading, body, trailing⟩ := hereditary.edges (hereditary.expand holds)
  intro x member
  rcases List.mem_append.1 member with member | member
  · rcases List.mem_append.1 member with member | member
    · exact leading x member
    · exact hereditary.items body x member
  · exact trailing x member

end Hereditary

/-! ## Canonical form -/

/-- What may stand in a sequence in canonical form. -/
def isPart : Doc → Bool
  | .empty | .seq _ | .join .. => false
  | _ => true

mutual

/-- Canonical form: no joins, and every sequence has at least two parts, none of
them empty or a sequence.  What control nodes carry may have any form. -/
def Tidy : Doc → Prop
  | .group body => body.Tidy
  | .indent _ body => body.Tidy
  | .seq parts => 2 ≤ parts.length ∧ TidyAll parts
  | .join .. => False
  | .empty | .leaf _ | .after _ | .before _ | .slot .. => True
termination_by structural d => d

def TidyAll : List Doc → Prop
  | [] => True
  | d :: ds => (d.isPart ∧ d.Tidy) ∧ TidyAll ds
termination_by structural ds => ds

end

theorem tidyAll_iff {ds : List Doc} : TidyAll ds ↔ ∀ d ∈ ds, d.isPart ∧ d.Tidy := by
  induction ds with
  | nil => simp [TidyAll]
  | cons d ds ih => rw [TidyAll, ih, List.forall_mem_cons]

theorem Tidy.of_mem_items {d x : Doc} (tidy : d.Tidy) (member : x ∈ d.items) :
    x.isPart ∧ x.Tidy := by
  cases d with
  | seq parts => exact tidyAll_iff.1 tidy.2 x member
  | empty => cases member
  | join => exact tidy.elim
  | _ =>
    rw [List.mem_singleton.1 member]
    exact ⟨rfl, tidy⟩

theorem tidy_ofParts {ds : List Doc} (parts : ∀ d ∈ ds, d.isPart ∧ d.Tidy) : (ofParts ds).Tidy := by
  match ds with
  | [] => trivial
  | [d] => exact (parts d List.mem_cons_self).2
  | d :: e :: rest => exact ⟨by simp, tidyAll_iff.2 parts⟩

theorem tidy_concat {ds : List Doc} (tidy : ∀ d ∈ ds, d.Tidy) : (concat ds).Tidy := by
  refine tidy_ofParts ?_
  intro x member
  obtain ⟨d, inside, member⟩ := List.mem_flatMap.1 member
  exact (tidy d inside).of_mem_items (List.mem_of_mem_filter member)

theorem hereditary_tidy : Hereditary Tidy where
  group tidy := ⟨tidy, fun tidy' => tidy'⟩
  indent tidy := ⟨tidy, fun tidy' => tidy'⟩
  part tidy d member := (tidyAll_iff.1 tidy.2 d member).2
  join tidy := tidy.elim
  concat := tidy_concat

/-- Opening the joins brings a document into canonical form. -/
theorem tidy_expand (d : Doc) : d.expand.Tidy := by
  induction d with
  | group body ih => exact ih
  | indent amount body ih => exact ih
  | seq parts ih =>
    rw [expand, expandAll_eq_map]
    exact tidy_concat (List.forall_mem_map.2 ih)
  | join items separator ih _ =>
    rw [expand, expandAll_eq_map]
    exact tidy_concat (forall_mem_interleave (P := Tidy) trivial false (List.forall_mem_nil _)
      (List.forall_mem_map.2 ih))
  | _ => trivial

theorem isPart_of_isControl {d : Doc} (control : d.isControl) : d.isPart := by
  cases d <;> simp_all [isControl, isPart]

theorem tidy_of_isControl {d : Doc} (control : d.isControl) : d.Tidy := by
  cases d with
  | after | before | slot => trivial
  | _ => cases control

/-- An opened document is a list of parts in canonical form. -/
theorem tidy_of_mem_opened {d x : Doc} (member : x ∈ d.opened) : x.isPart ∧ x.Tidy := by
  rcases List.mem_append.1 member with member | member
  · rcases List.mem_append.1 member with member | member
    · have control := isControl_of_mem_edges d.expand (.inl member)
      exact ⟨isPart_of_isControl control, tidy_of_isControl control⟩
    · exact (hereditary_tidy.edges (tidy_expand d)).2.1.of_mem_items member
  · have control := isControl_of_mem_edges d.expand (.inr member)
    exact ⟨isPart_of_isControl control, tidy_of_isControl control⟩

/-- Induction on the parts of a document in canonical form: a part is a leaf, a
control node, or a wrapper around parts. -/
theorem Tidy.induction {motive : Doc → Prop} {d : Doc} (tidy : d.Tidy)
    (leaf : ∀ l, motive (.leaf l))
    (control : ∀ c, c.isControl → motive c)
    (group : ∀ body, body.Tidy → (∀ x ∈ body.items, motive x) → motive (.group body))
    (indent : ∀ amount body, body.Tidy → (∀ x ∈ body.items, motive x) →
      motive (.indent amount body)) :
    ∀ x ∈ d.items, motive x := by
  induction d with
  | empty => exact List.forall_mem_nil _
  | leaf l => exact List.forall_mem_singleton.2 (leaf l)
  | group body ih => exact List.forall_mem_singleton.2 (group body tidy (ih tidy))
  | indent amount body ih => exact List.forall_mem_singleton.2 (indent amount body tidy (ih tidy))
  | seq parts ih =>
    intro x member
    obtain ⟨part, inner⟩ := tidyAll_iff.1 tidy.2 x member
    have alone : x ∈ x.items := by
      cases x with
      | empty | seq | join => cases part
      | _ => exact List.mem_cons_self
    exact ih x member inner x alone
  | join => exact tidy.elim
  | after spacing => exact List.forall_mem_singleton.2 (control _ rfl)
  | before spacing => exact List.forall_mem_singleton.2 (control _ rfl)
  | slot usual trivia required => exact List.forall_mem_singleton.2 (control _ rfl)

/-- The same for the parts of an opened document. -/
theorem opened_induction {motive : Doc → Prop} {d : Doc}
    (leaf : ∀ l, motive (.leaf l))
    (control : ∀ c, c.isControl → motive c)
    (group : ∀ body, body.Tidy → (∀ x ∈ body.items, motive x) → motive (.group body))
    (indent : ∀ amount body, body.Tidy → (∀ x ∈ body.items, motive x) →
      motive (.indent amount body)) :
    ∀ x ∈ d.opened, motive x := by
  intro x member
  rcases List.mem_append.1 member with member | member
  · rcases List.mem_append.1 member with member | member
    · exact control x (isControl_of_mem_edges d.expand (.inl member))
    · have tidy := (hereditary_tidy.edges (tidy_expand d)).2.1
      exact tidy.induction leaf control group indent x member
  · exact control x (isControl_of_mem_edges d.expand (.inr member))

/-! ## Governed documents -/

mutual

/-- Every control node of a document that is not carried by another one
satisfies `control`, and the separator of every join `separator`. -/
def Governed (control separator : Doc → Prop) : Doc → Prop
  | .empty | .leaf _ => True
  | .group body => body.Governed control separator
  | .indent _ body => body.Governed control separator
  | .seq parts => GovernedAll control separator parts
  | .join items between => GovernedAll control separator items ∧ separator between
  | .after spacing => control (.after spacing)
  | .before spacing => control (.before spacing)
  | .slot spacing trivia required => control (.slot spacing trivia required)
termination_by structural d => d

def GovernedAll (control separator : Doc → Prop) : List Doc → Prop
  | [] => True
  | d :: ds => d.Governed control separator ∧ GovernedAll control separator ds
termination_by structural ds => ds

end

section Governed

variable {control separator : Doc → Prop}

theorem governedAll_iff {ds : List Doc} :
    GovernedAll control separator ds ↔ ∀ d ∈ ds, d.Governed control separator := by
  induction ds with
  | nil => simp [GovernedAll]
  | cons d ds ih => rw [GovernedAll, ih, List.forall_mem_cons]

theorem Governed.items {d : Doc} (governed : d.Governed control separator) :
    ∀ x ∈ d.items, x.Governed control separator := by
  intro x member
  cases d with
  | seq parts => exact governedAll_iff.1 governed x member
  | empty => cases member
  | _ => exact List.mem_singleton.1 member ▸ governed

theorem governed_concat {ds : List Doc} (all : ∀ d ∈ ds, d.Governed control separator) :
    (concat ds).Governed control separator :=
  holds_concat trivial governedAll_iff all

theorem hereditary_governed (opens : ∀ s, separator s → control (.triviaSlot s false)) :
    Hereditary (Governed control separator) where
  group governed := ⟨governed, fun governed' => governed'⟩
  indent governed := ⟨governed, fun governed' => governed'⟩
  part governed := governedAll_iff.1 governed
  join governed := ⟨governedAll_iff.1 governed.1, opens _ governed.2⟩
  concat := governed_concat

/-- A document may be governed by two conditions at once. -/
theorem Governed.and {control' separator' : Doc → Prop} {d : Doc}
    (first : d.Governed control separator) (second : d.Governed control' separator') :
    d.Governed (fun c => control c ∧ control' c) (fun s => separator s ∧ separator' s) := by
  induction d with
  | empty | leaf => trivial
  | group body ih => exact ih first second
  | indent amount body ih => exact ih first second
  | seq parts ih =>
    exact governedAll_iff.2 fun d member =>
      ih d member (governedAll_iff.1 first d member) (governedAll_iff.1 second d member)
  | join items between ih _ =>
    exact ⟨governedAll_iff.2 fun d member =>
      ih d member (governedAll_iff.1 first.1 d member) (governedAll_iff.1 second.1 d member),
      first.2, second.2⟩
  | after | before | slot => exact ⟨first, second⟩

/-- A document may be governed by less. -/
theorem Governed.mono {control' separator' : Doc → Prop} {d : Doc}
    (governed : d.Governed control separator) (controls : ∀ c, control c → control' c)
    (separators : ∀ s, separator s → separator' s) : d.Governed control' separator' := by
  induction d with
  | empty | leaf => trivial
  | group body ih => exact ih governed
  | indent amount body ih => exact ih governed
  | seq parts ih =>
    exact governedAll_iff.2 fun d member => ih d member (governedAll_iff.1 governed d member)
  | join items between ih _ =>
    exact ⟨governedAll_iff.2 fun d member => ih d member (governedAll_iff.1 governed.1 d member),
      separators _ governed.2⟩
  | after | before | slot => exact controls _ governed

end Governed

/-! ## Leaves -/

section Leaves

variable (kept : Doc → List Strand)

/-- Control nodes leave a document without changing the order of the leaves. -/
theorem strands_edges (d : Doc) (around : List Wrapper) :
    d.edges.leading.flatMap (strands kept around) ++ d.edges.body.strands kept around
      ++ d.edges.trailing.flatMap (strands kept around) = d.strands kept around := by
  induction d generalizing around with
  | group body ih =>
    have leading := flatMap_strands_controls kept
      (fun x member => isControl_of_mem_edges body (.inl member)) around (around ++ [.group])
    have trailing := flatMap_strands_controls kept
      (fun x member => isControl_of_mem_edges body (.inr member)) around (around ++ [.group])
    simp only [edges, Edges.wrap, strands]
    rw [leading, trailing, ih]
  | indent amount body ih =>
    have leading := flatMap_strands_controls kept
      (fun x member => isControl_of_mem_edges body (.inl member)) around (around ++ [.indent amount])
    have trailing := flatMap_strands_controls kept
      (fun x member => isControl_of_mem_edges body (.inr member)) around (around ++ [.indent amount])
    simp only [edges, Edges.wrap, strands]
    rw [leading, trailing, ih]
  | seq parts ih =>
    have flat : (flattenAll parts).flatMap (strands kept around)
        = parts.flatMap (strands kept around) := by
      rw [flattenAll_eq_flatMap, List.flatMap_assoc]
      refine List.flatMap_congr fun d member => ?_
      rw [← ih d member around, Edges.flatten, List.flatMap_append, List.flatMap_append]
      congr 2
      by_cases empty : d.edges.body.isEmpty
      · simp [empty, strands_of_isEmpty kept around empty]
      · simp [empty]
    rw [strands_seq, ← flat, edges]
    exact Edges.flatMap_ofParts rfl (strands_seq kept around) _
  | empty => simp [edges, strands]
  | leaf l => simp [edges]
  | join items separator => simp [edges]
  | after spacing => simp [edges, strands]
  | before spacing => simp [edges, strands]
  | slot spacing trivia required => cases trivia <;> simp [edges, strands]

variable {kept} {Free : Strand → Prop}

/-- A separator that is put somewhere adds its leaves. -/
theorem woven_insert {separator : Doc} (free : ∀ s ∈ kept separator, Free s) (front back : List Doc)
    (around : List Wrapper) :
    Woven Eq Free ((front ++ back).flatMap (strands kept around))
      ((front ++ .triviaSlot separator false :: back).flatMap (strands kept around)) := by
  rw [List.flatMap_append, List.flatMap_append, List.flatMap_cons]
  exact .append (.refl _) (.insertAll free (.refl _))

theorem woven_joint {separator : Doc} (free : ∀ s ∈ kept separator, Free s) (gap : List Doc)
    (around : List Wrapper) :
    Woven Eq Free (gap.flatMap (strands kept around))
      ((joint separator gap).flatMap (strands kept around)) := by
  unfold joint
  split
  · next first rest found =>
    have split : gap.takeWhile (!·.isSlot) ++ [first] ++ rest = gap := by
      rw [List.append_assoc, List.singleton_append, ← found, List.takeWhile_append_dropWhile]
    have woven := woven_insert free (gap.takeWhile (!·.isSlot) ++ [first]) rest around
    rw [split, List.append_assoc, List.singleton_append] at woven
    exact woven
  · have woven := woven_insert free (gap.takeWhile isAfter) (gap.dropWhile isAfter) around
    rw [List.takeWhile_append_dropWhile] at woven
    exact woven

theorem woven_interleave {separator : Doc} (free : ∀ s ∈ kept separator, Free s) (seen : Bool)
    (gap ds : List Doc) (around : List Wrapper) :
    Woven Eq Free ((gap ++ ds).flatMap (strands kept around))
      ((interleave separator seen gap ds).flatMap (strands kept around)) := by
  induction ds generalizing seen gap with
  | nil =>
    rw [List.append_nil, interleave]
    exact .refl _
  | cons d ds ih =>
    have rest := ih true []
    rw [List.nil_append] at rest
    rw [interleave]
    split_ifs with empty control started
    · have again := ih seen gap
      rwa [List.flatMap_append, List.flatMap_cons, strands_of_isEmpty kept around empty,
        List.nil_append, ← List.flatMap_append]
    · have again := ih seen (gap ++ [d])
      rwa [List.append_assoc, List.singleton_append] at again
    · rw [List.flatMap_append, List.flatMap_append, List.flatMap_cons, List.flatMap_cons]
      exact (woven_joint free gap around).append (.append (.refl _) rest)
    · rw [List.flatMap_append, List.flatMap_append, List.flatMap_cons, List.flatMap_cons]
      exact .append (.refl _) (.append (.refl _) rest)

/-- Opening the joins adds the leaves of their separators. -/
theorem woven_expand {control separator : Doc → Prop}
    (free : ∀ s, separator s → ∀ x ∈ kept s, Free x) {d : Doc}
    (governed : d.Governed control separator) (around : List Wrapper) :
    Woven Eq Free (d.strands kept around) (d.expand.strands kept around) := by
  induction d generalizing around with
  | group body ih => exact ih governed _
  | indent amount body ih => exact ih governed _
  | seq parts ih =>
    rw [expand, expandAll_eq_map, strands_seq, strands_concat, List.flatMap_map]
    exact .flatMap fun d member => ih d member (governedAll_iff.1 governed d member) around
  | join items between ih _ =>
    rw [expand, expandAll_eq_map, strands_join, strands_concat]
    have outer := woven_interleave (free between governed.2) false [] (items.map expand) around
    rw [List.nil_append, List.flatMap_map] at outer
    refine .trans_eq (fun _ _ here same => same ▸ here) (.flatMap fun d member => ?_) outer
    exact ih d member (governedAll_iff.1 governed.1 d member) around
  | _ => exact .refl _

/-- An opened document has the leaves of the document in order, and beside them
only those of separators. -/
theorem woven_opened {control separator : Doc → Prop}
    (free : ∀ s, separator s → ∀ x ∈ kept s, Free x) {d : Doc}
    (governed : d.Governed control separator) :
    Woven Eq Free (d.strands kept []) (d.opened.flatMap (strands kept [])) := by
  have woven := woven_expand free governed []
  rw [opened, List.flatMap_append, List.flatMap_append, flatMap_strands_items, strands_edges]
  exact woven

end Leaves

end Reprint.Doc
