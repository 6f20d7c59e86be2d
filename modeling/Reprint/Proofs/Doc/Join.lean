import Reprint.Proofs.Doc.Gap

/-!
# The gaps of a join

Between two items of a join stand control nodes like those between two texts.  The separator
is put among them as one more slot, which keeps it like trivia (`joint_docs`).  So the gap
comes to nothing but what its slots keep and the separator among it, whatever spacing was
asked for there, and a line end written as text in front of it stays one (`resolve_join`).
-/

namespace Reprint

namespace Doc

/-! ## Gaps -/

/-- The control nodes between two items. -/
structure Gap where
  afters : List Doc
  slots : List Slot
  befores : List Doc

namespace Gap

def docs (gap : Gap) : List Doc :=
  gap.afters.map .after ++ gap.slots.map Slot.doc ++ gap.befores.map .before

/-- What a gap comes to with a separator in it: the separator and what the slots keep behind
it, but what the first slot keeps stands in front. -/
def separated (separator : Doc) (gap : Gap) : List Doc :=
  match gap.slots with
  | ⟨_, some kept, _⟩ :: others => kept :: separator :: others.filterMap Slot.trivia
  | slots => separator :: slots.filterMap Slot.trivia

/-- The gap with a slot for the separator behind its first slot. -/
def joined (separator : Doc) (gap : Gap) : Gap where
  afters := gap.afters
  slots := match gap.slots with
    | [] => [⟨none, some separator, false⟩]
    | first :: others => first :: ⟨none, some separator, false⟩ :: others
  befores := gap.befores

theorem trivia_joined (separator : Doc) (gap : Gap) :
    (gap.joined separator).slots.filterMap Slot.trivia = gap.separated separator := by
  obtain ⟨afters, slots, befores⟩ := gap
  match slots with
  | [] => rfl
  | ⟨_, none, _⟩ :: _ => rfl
  | ⟨_, some _, _⟩ :: _ => rfl

theorem isControl_docs (gap : Gap) : ∀ d ∈ gap.docs, d.isControl := by
  simp only [docs, List.forall_mem_append, List.forall_mem_map]
  exact ⟨⟨fun _ _ => rfl, fun _ _ => rfl⟩, fun _ _ => rfl⟩

theorem separated_ne_nil (separator : Doc) (gap : Gap) : gap.separated separator ≠ [] := by
  unfold separated
  split <;> exact List.cons_ne_nil _ _

end Gap

/-- The separator is put into a gap as one of its slots. -/
theorem joint_docs (separator : Doc) (gap : Gap) :
    joint separator gap.docs = (gap.joined separator).docs := by
  obtain ⟨afters, slots, befores⟩ := gap
  have ahead : ∀ d ∈ afters.map after, !d.isSlot := List.forall_mem_map.2 fun _ _ => rfl
  cases slots with
  | nil =>
    have behind : ∀ d ∈ befores.map before, !d.isSlot := List.forall_mem_map.2 fun _ _ => rfl
    have none : (afters.map after ++ befores.map before).dropWhile (!·.isSlot) = [] :=
      List.dropWhile_eq_nil_iff.2 (List.forall_mem_append.2 ⟨ahead, behind⟩)
    have afters' : ∀ d ∈ afters.map after, d.isAfter := List.forall_mem_map.2 fun _ _ => rfl
    have befores' : (befores.map before).takeWhile isAfter = [] := by cases befores <;> rfl
    have others : (befores.map before).dropWhile isAfter = befores.map before := by cases befores <;> rfl
    rw [Gap.docs, List.map_nil, List.append_nil, joint, none]
    simp only [List.takeWhile_append_of_pos afters', List.dropWhile_append_of_pos afters', befores',
      others, List.append_nil]
    simp [Gap.docs, Gap.joined, Slot.doc]
  | cons first others =>
    have found : (first.doc :: (others.map Slot.doc ++ befores.map before)).dropWhile (!·.isSlot)
        = first.doc :: (others.map Slot.doc ++ befores.map before) := rfl
    have taken : (first.doc :: (others.map Slot.doc ++ befores.map before)).takeWhile (!·.isSlot) = [] := rfl
    rw [Gap.docs, List.map_cons, List.append_assoc, List.cons_append, joint,
      List.dropWhile_append_of_pos ahead, found, List.takeWhile_append_of_pos ahead, taken]
    simp [Gap.docs, Gap.joined, Slot.doc]

/-! ## Items and gaps -/

/-- Leaves, and what becomes of the gaps between them. -/
def spaced (content : Gap → List Doc) : Leaf → List (Gap × Leaf) → List Doc
  | x, [] => [.leaf x]
  | x, (gap, y) :: rest => .leaf x :: (content gap ++ spaced content y rest)

theorem isFlat_spaced {content : Gap → List Doc} (controls : ∀ gap, ∀ d ∈ content gap, d.isControl)
    (x : Leaf) (rest : List (Gap × Leaf)) : ∀ d ∈ spaced content x rest, d.isFlat := by
  induction rest generalizing x with
  | nil => exact List.forall_mem_singleton.2 rfl
  | cons pair rest ih =>
    rw [spaced, List.forall_mem_cons, List.forall_mem_append]
    exact ⟨rfl, fun d member => isFlat_of_isControl (controls pair.1 d member), ih pair.2⟩

/-- Control nodes are collected until an item that prints something comes. -/
theorem interleave_controls (separator : Doc) (gap : List Doc) {controls : List Doc}
    (all : ∀ d ∈ controls, d.isControl) (ds : List Doc) :
    interleave separator true gap (controls ++ ds) = interleave separator true (gap ++ controls) ds := by
  induction controls generalizing gap with
  | nil => rw [List.nil_append, List.append_nil]
  | cons d controls ih =>
    obtain ⟨first, others⟩ := List.forall_mem_cons.1 all
    have full : d.isEmpty = false := by
      cases d with
      | empty => cases first
      | _ => rfl
    rw [List.cons_append, interleave, full, first, if_neg Bool.false_ne_true, if_pos rfl, ih _ others,
      List.append_assoc, List.singleton_append]

/-- Between leaves the separator comes into each gap. -/
theorem interleave_spaced (separator : Doc) (x : Leaf) (rest : List (Gap × Leaf)) :
    interleave separator false [] (spaced Gap.docs x rest)
      = spaced (fun gap => (gap.joined separator).docs) x rest := by
  have behind : ∀ (rest : List (Gap × Leaf)) (gap : Gap) (y : Leaf),
      interleave separator true [] (gap.docs ++ spaced Gap.docs y rest)
        = (gap.joined separator).docs ++ spaced (fun gap => (gap.joined separator).docs) y rest := by
    intro rest
    induction rest with
    | nil =>
      intro gap y
      rw [interleave_controls separator [] gap.isControl_docs, List.nil_append, ← joint_docs]
      rfl
    | cons pair rest ih =>
      intro gap y
      rw [interleave_controls separator [] gap.isControl_docs, List.nil_append, ← joint_docs]
      exact congrArg (fun ds => joint separator gap.docs ++ .leaf y :: ds) (ih pair.1 pair.2)
  cases rest with
  | nil => rfl
  | cons pair rest => exact congrArg (.leaf x :: ·) (behind rest pair.1 pair.2)

/-- A join of leaves is opened to them with the separator in each gap. -/
theorem opened_join (separator : Doc) (x : Leaf) (rest : List (Gap × Leaf)) :
    (Doc.join (spaced Gap.docs x rest) separator).opened
      = (Doc.seq (spaced (fun gap => (gap.joined separator).docs) x rest)).opened := by
  have own : ∀ {content : Gap → List Doc}, (∀ gap, ∀ d ∈ content gap, d.isControl) →
      (spaced content x rest).map expand = spaced content x rest := by
    intro content controls
    rw [List.map_congr_left fun d member => expand_of_isFlat (isFlat_spaced controls x rest d member),
      List.map_id']
  have same : (Doc.join (spaced Gap.docs x rest) separator).expand
      = (Doc.seq (spaced (fun gap => (gap.joined separator).docs) x rest)).expand := by
    rw [expand, expand, expandAll_eq_map, expandAll_eq_map, own Gap.isControl_docs,
      own fun gap => (gap.joined separator).isControl_docs, interleave_spaced]
  rw [opened, same, opened]

/-- Behind a leaf a gap with the separator in it comes to what its slots keep and the separator. -/
theorem reduce_leaf_joined (separator : Doc) (x : Leaf) (gap : Gap) :
    Cell.reduce resolve (.raw (.leaf x) :: (gap.joined separator).docs.map .raw)
      = .raw (.leaf x) :: (gap.separated separator).map fun d => .settled (resolve d) := by
  have cells : (gap.joined separator).docs.map Cell.raw
      = Cell.gap gap.afters (gap.joined separator).slots gap.befores := by
    simp only [Gap.docs, Gap.joined, Cell.gap, List.map_append, List.map_map]
    rfl
  have keeps : (gap.joined separator).slots.filterMap Slot.trivia ≠ [] := by
    rw [Gap.trivia_joined]
    exact gap.separated_ne_nil separator
  have kept := Cell.isKept_gathered_gap gap.afters gap.befores keeps
  have content : (Cell.raw (.leaf x)).isControl = false := rfl
  rw [cells, Cell.reduce_gathered, Cell.gathered_cons content, Cell.reduce_cons_of_kept content kept,
    Cell.reduce_of_kept kept, Cell.outcome_gathered, Cell.outcome_gap, Gap.trivia_joined]

/-- Reduction leaves of each gap what its slots keep and the separator. -/
theorem reduce_spaced (separator : Doc) (x : Leaf) (rest : List (Gap × Leaf)) :
    (Cell.reduce resolve ((spaced (fun gap => (gap.joined separator).docs) x rest).map .raw)).map Cell.doc
      = spaced (fun gap => (gap.separated separator).map resolve) x rest := by
  induction rest generalizing x with
  | nil =>
    rw [spaced, List.map_singleton, Cell.reduce_of_contents (List.forall_mem_singleton.2 rfl)]
    rfl
  | cons pair rest ih =>
    have shut : Cell.Shut ((spaced (fun gap => (gap.joined separator).docs) pair.2 rest).map .raw) := by
      intro c first
      cases rest <;> cases first <;> rfl
    rw [spaced, List.map_cons, List.map_append, ← List.cons_append, Cell.reduce_append shut,
      reduce_leaf_joined, List.map_append, ih, List.map_cons, List.map_map]
    rfl

/-- A separator goes into each gap of a join exactly once: in front of what the slots of the
gap keep, or right behind what the first one keeps.  Nothing else comes of the gap. -/
theorem resolve_join (separator : Doc) (x : Leaf) (rest : List (Gap × Leaf)) :
    resolve (.join (spaced Gap.docs x rest) separator)
      = (concat (spaced (fun gap => (gap.separated separator).map resolve) x rest)).sink := by
  have flat := isFlat_spaced (fun gap => (gap.joined separator).isControl_docs) x rest
  rw [resolve_congr_of_opened (opened_join separator x rest), resolve_of_isFlat flat, reduce_spaced]

end Doc

end Reprint
