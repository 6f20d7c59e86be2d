import Reprint.Proofs.Doc.Opening

/-!
# Opening part by part

A sequence is opened part by part (`opened_seq_eq_flatMap`), and a group or an indentation
takes the control nodes at the two ends of its opened body out (`opened_enclose`).  So a part
bears on the document around it only through what it is opened to itself.
-/

namespace Reprint

/-- A document inside a group or an indentation. -/
def Wrapper.enclose : Wrapper → Doc → Doc
  | .group, body => .group body
  | .indent amount, body => .indent amount body

namespace Doc

/-! ## Lists of parts -/

theorem items_ofParts {ds : List Doc} (parts : ∀ d ∈ ds, d.isPart) : (ofParts ds).items = ds := by
  match ds with
  | [] => rfl
  | [d] =>
    cases d with
    | empty | seq | join => cases parts _ List.mem_cons_self
    | _ => rfl
  | _ :: _ :: _ => rfl

theorem concat_of_isPart {ds : List Doc} (parts : ∀ d ∈ ds, d.isPart) : concat ds = ofParts ds := by
  have own : ∀ d ∈ ds, splice d = [d] := by
    intro d member
    cases d with
    | empty | seq | join => cases parts _ member
    | _ => rfl
  rw [concat, List.flatMap_congr own, List.flatMap_singleton']

theorem Tidy.splice_eq {d : Doc} (tidy : d.Tidy) : d.splice = d.items := by
  refine List.filter_eq_self.2 fun x member => ?_
  have part := (tidy.of_mem_items member).1
  cases x with
  | empty => cases part
  | _ => rfl

/-- Documents in canonical form are put one after the other by their parts. -/
theorem items_concat {ds : List Doc} (tidy : ∀ d ∈ ds, d.Tidy) :
    (concat ds).items = ds.flatMap items := by
  have parts : ∀ x ∈ ds.flatMap items, x.isPart := by
    intro x member
    obtain ⟨d, inside, member⟩ := List.mem_flatMap.1 member
    exact ((tidy d inside).of_mem_items member).1
  rw [concat, List.flatMap_congr fun d member => (tidy d member).splice_eq, items_ofParts parts]

/-! ## The two ends of a list -/

theorem isLeading_of_mem_edges (d : Doc) : ∀ x ∈ d.edges.leading, x.isLeading := by
  induction d with
  | group body ih => exact ih
  | indent amount body ih => exact ih
  | seq parts => exact fun x member => List.mem_takeWhile_imp member
  | _ => simp [edges, isLeading]

theorem isTrailing_of_mem_edges (d : Doc) : ∀ x ∈ d.edges.trailing, x.isTrailing := by
  induction d with
  | group body ih => exact ih
  | indent amount body ih => exact ih
  | seq parts => exact fun x member => List.mem_takeWhile_imp (List.mem_reverse.1 member)
  | _ => simp [edges, isTrailing]

/-- Control nodes that may leave a list at its two ends are cut off with what is cut off
between them, if that is not all there is. -/
theorem Edges.ofParts_surrounded {front ds back : List Doc} (leading : ∀ d ∈ front, d.isLeading)
    (trailing : ∀ d ∈ back, d.isTrailing) (content : ∃ d ∈ ds, d.isControl = false) :
    ofParts (front ++ ds ++ back)
      = ⟨front ++ (ofParts ds).leading, (ofParts ds).body, (ofParts ds).trailing ++ back⟩ := by
  obtain ⟨x, member, content⟩ := content
  have stays : ds.dropWhile isLeading ≠ [] := by
    intro none
    have leads := List.dropWhile_eq_nil_iff.1 none x member
    rw [isControl_of_isLeading leads] at content
    cases content
  have dropped : (ds ++ back).dropWhile isLeading = ds.dropWhile isLeading ++ back := by
    rw [List.dropWhile_append]
    simp [stays]
  have taken : (ds ++ back).takeWhile isLeading = ds.takeWhile isLeading := by
    have whole : (ds ++ back).takeWhile isLeading ++ (ds ++ back).dropWhile isLeading = ds ++ back :=
      List.takeWhile_append_dropWhile
    have first : ds.takeWhile isLeading ++ ds.dropWhile isLeading = ds :=
      List.takeWhile_append_dropWhile
    rw [dropped, ← List.append_assoc] at whole
    exact List.append_cancel_right ((List.append_cancel_right whole).trans first.symm)
  have trailing' : ∀ d ∈ back.reverse, d.isTrailing := fun d member =>
    trailing d (List.mem_reverse.1 member)
  simp only [ofParts, List.append_assoc, List.takeWhile_append_of_pos leading,
    List.dropWhile_append_of_pos leading, taken, dropped, List.reverse_append,
    List.takeWhile_append_of_pos trailing', List.dropWhile_append_of_pos trailing',
    List.reverse_reverse]

/-! ## Opened documents -/

theorem edges_enclose (w : Wrapper) (d : Doc) :
    (w.enclose d).edges = ⟨d.edges.leading, w.enclose d.edges.body, d.edges.trailing⟩ := by
  cases w <;> rfl

/-- What a group or an indentation adds to a list of parts: itself, with the control nodes of
its edges around it. -/
theorem flatten_enclose (w : Wrapper) (d : Doc) :
    (w.enclose d).edges.flatten = d.edges.leading ++ w.enclose d.edges.body :: d.edges.trailing := by
  rw [edges_enclose]
  cases w <;> simp [Wrapper.enclose, Edges.flatten, isEmpty]

theorem isControl_enclose (w : Wrapper) (d : Doc) : (w.enclose d).isControl = false := by
  cases w <;> rfl

theorem Edges.ofParts_enclose (w : Wrapper) (d : Doc) : ofParts [w.enclose d] = ⟨[], w.enclose d, []⟩ := by
  cases w <;> rfl

/-- A group or an indentation has the edges of the list of what it adds to one. -/
theorem edges_enclose_eq_ofParts (w : Wrapper) (d : Doc) :
    (w.enclose d).edges = Edges.ofParts (flattenAll [w.enclose d]) := by
  have around := Edges.ofParts_surrounded (isLeading_of_mem_edges d) (isTrailing_of_mem_edges d)
    ⟨_, List.mem_singleton_self (w.enclose d.edges.body), isControl_enclose w _⟩
  rw [Edges.ofParts_enclose, List.append_nil, List.append_assoc, List.singleton_append,
    List.nil_append] at around
  rw [flattenAll, flattenAll, List.append_nil, flatten_enclose, around, edges_enclose]

/-- A document in canonical form has the edges of the list of its flattened parts. -/
theorem edges_eq_ofParts {d : Doc} (tidy : d.Tidy) : d.edges = Edges.ofParts (flattenAll d.items) := by
  cases d with
  | group body => exact edges_enclose_eq_ofParts .group body
  | indent amount body => exact edges_enclose_eq_ofParts (.indent amount) body
  | join => exact tidy.elim
  | _ => rfl

theorem isPart_of_mem_flatten {d : Doc} (part : d.isPart) : ∀ x ∈ d.edges.flatten, x.isPart := by
  have enclosed : ∀ (w : Wrapper) (body : Doc), ∀ x ∈ (w.enclose body).edges.flatten, x.isPart := by
    intro w body x member
    rw [flatten_enclose, List.mem_append, List.mem_cons] at member
    obtain member | rfl | member := member
    · exact isPart_of_isControl (isControl_of_mem_edges body (.inl member))
    · cases w <;> rfl
    · exact isPart_of_isControl (isControl_of_mem_edges body (.inr member))
  cases d with
  | group body => exact enclosed .group body
  | indent amount body => exact enclosed (.indent amount) body
  | empty | seq | join => cases part
  | leaf | after | before | slot => exact List.forall_mem_singleton.2 rfl

/-- A document is opened to the flattened parts of its expanded form. -/
theorem opened_eq_flattenAll (d : Doc) : d.opened = flattenAll d.expand.items := by
  have parts : ∀ x ∈ flattenAll d.expand.items, x.isPart := by
    rw [flattenAll_eq_flatMap]
    intro x member
    obtain ⟨e, inside, member⟩ := List.mem_flatMap.1 member
    exact isPart_of_mem_flatten ((tidy_expand d).of_mem_items inside).1 x member
  rw [opened, edges_eq_ofParts (tidy_expand d)]
  generalize flattenAll d.expand.items = ds at parts
  have inner : ∀ x ∈ ((ds.dropWhile isLeading).reverse.dropWhile isTrailing).reverse, x.isPart := by
    intro x member
    rw [List.mem_reverse] at member
    exact parts x (List.dropWhile_subset _ (List.mem_reverse.1 (List.dropWhile_subset _ member)))
  have body : (Edges.ofParts ds).body.items
      = ((ds.dropWhile isLeading).reverse.dropWhile isTrailing).reverse := by
    rw [Edges.ofParts, concat_of_isPart inner, items_ofParts inner]
  rw [body, List.append_assoc]
  exact Edges.ofParts_append ds

theorem opened_of_isControl {d : Doc} (control : d.isControl) : d.opened = [d] := by
  cases d with
  | after | before | slot => rfl
  | _ => cases control

/-- A sequence is opened part by part. -/
theorem opened_seq_eq_flatMap (parts : List Doc) : (Doc.seq parts).opened = parts.flatMap opened := by
  have tidy : ∀ d ∈ parts.map expand, d.Tidy := List.forall_mem_map.2 fun d _ => tidy_expand d
  rw [opened_eq_flattenAll, expand, expandAll_eq_map, items_concat tidy, flattenAll_eq_flatMap,
    List.flatMap_map, List.flatMap_assoc]
  refine List.flatMap_congr fun d _ => ?_
  rw [opened_eq_flattenAll, flattenAll_eq_flatMap]

/-- A group or an indentation is opened to what its body is opened to, cut at the edges. -/
theorem opened_enclose (w : Wrapper) (d : Doc) :
    (w.enclose d).opened = (Edges.ofParts d.opened).leading
      ++ w.enclose (Edges.ofParts d.opened).body :: (Edges.ofParts d.opened).trailing := by
  have expanded : (w.enclose d).expand.items = [w.enclose d.expand] := by cases w <;> rfl
  rw [opened_eq_flattenAll, expanded, flattenAll, flattenAll, List.append_nil, flatten_enclose,
    edges_eq_ofParts (tidy_expand d), opened_eq_flattenAll d]

/-! ## Reading an opened document -/

section Reading

variable {β : Type} {f : Doc → List β} (empty : f .empty = [])
  (seq : ∀ parts, f (.seq parts) = parts.flatMap f)
include empty seq

/-- What is collected from a document through its wrappers is collected from its parts, if it
has no join. -/
theorem flatMap_opened (enclose : ∀ (w : Wrapper) body, f (w.enclose body) = f body)
    {control : Doc → Prop} {d : Doc} (joinless : d.Governed control fun _ => False) :
    d.opened.flatMap f = f d := by
  have enclosed : ∀ (w : Wrapper) (body : Doc), body.opened.flatMap f = f body →
      (w.enclose body).opened.flatMap f = f (w.enclose body) := by
    intro w body ih
    have cut := Edges.flatMap_ofParts empty seq body.opened
    rw [opened_enclose, enclose, ← ih, ← cut, List.flatMap_append, List.flatMap_cons, enclose,
      List.append_assoc]
  induction d with
  | empty => exact empty.symm
  | leaf l => exact List.flatMap_singleton f _
  | group body ih => exact enclosed .group body (ih joinless)
  | indent amount body ih => exact enclosed (.indent amount) body (ih joinless)
  | seq parts ih =>
    rw [opened_seq_eq_flatMap, List.flatMap_assoc, seq]
    exact List.flatMap_congr fun d member => ih d member (governedAll_iff.1 joinless d member)
  | join items separator => exact joinless.2.elim
  | after | before | slot =>
    rw [opened_of_isControl rfl]
    exact List.flatMap_singleton f _

end Reading

end Doc

end Reprint
