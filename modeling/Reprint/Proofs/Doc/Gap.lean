import Reprint.Proofs.Doc.Gathering
import Reprint.Proofs.Doc.Fixpoint
import Reprint.Proofs.Doc.Parts

/-!
# What one gap comes to

Between two texts stand control nodes: the after-spacing that was asked for, the slots,
and the before-spacing.  `gapContent` says in closed form what the reduction makes of
them, and `resolve_gap` that resolution puts that between the two texts.

If slots keep trivia, the trivia is all that counts.  If none does, the spacing of each
kind comes to the strongest one of it, one slot is left between at most two boundary
spacings, and one rule decides.
-/

namespace Reprint.Doc

/-- What a slot carries. -/
structure Slot where
  /-- The spacing that is usual there. -/
  spacing : Option Doc
  /-- The trivia of the source. -/
  trivia : Option Doc
  /-- Whether something has to stand there. -/
  required : Bool

def Slot.doc (s : Slot) : Doc := .slot s.spacing s.trivia s.required

/-! ## The closed form -/

/-- The spacing that is asked for in a gap.  What is asked for after one item and before
the next meets there; one of them alone only counts if the gap has spacing or needs it. -/
def asked (after before usual : Option Doc) (required : Bool) : Option Doc :=
  match after, before with
  | some a, some b => some (a.merge b)
  | some c, none | none, some c => if usual.isSome || required then some c else none
  | none, none => usual

/-- The spacing that a gap comes to.  Where something has to stand, nothing and an empty
document give way to the usual spacing, and that to a space. -/
def gapSpacing (after before usual : Option Doc) (required : Bool) : Option Doc :=
  let result := asked after before usual required
  if required && result.all isEmpty then some ((usual.filter (!·.isEmpty)).getD .space) else result

/-- The documents that a gap comes to: the trivia of its slots, and without trivia its
spacing. -/
def gapContent (afters : List Doc) (slots : List Slot) (befores : List Doc) : List Doc :=
  match slots.filterMap Slot.trivia with
  | [] =>
    (gapSpacing (mergeAll? afters) (mergeAll? befores) (mergeAll? (slots.filterMap Slot.spacing))
      (slots.any Slot.required)).toList
  | kept => kept

end Reprint.Doc

namespace Reprint.Cell

open Doc (mergeAll? merge? Slot)

variable {settle : Doc → Doc}

/-! ## Runs of one kind -/

/-- Boundary spacings of one kind side by side come to the strongest of them. -/
theorem gathered_boundaries {kind : Doc → Doc}
    (meets : ∀ a b, meet? (.raw (kind a)) (.raw (kind b)) = some (.raw (kind (a.merge b))))
    (ds : List Doc) :
    gathered (ds.map fun d => .raw (kind d)) = ((mergeAll? ds).map fun d => .raw (kind d)).toList := by
  cases ds with
  | nil => rfl
  | cons d ds =>
    show gather (.raw (kind d)) _ = [.raw (kind (ds.foldl Doc.merge d))]
    induction ds generalizing d with
    | nil => rfl
    | cons e ds ih => rw [List.map_cons, gather_of_meet? _ (meets d e), List.foldl_cons, ← ih]

theorem mergeAll?_merge? (a b : Option Doc) (ds : List Doc) :
    mergeAll? ((merge? a b).toList ++ ds) = mergeAll? (a.toList ++ (b.toList ++ ds)) := by
  cases a <;> cases b <;> rfl

/-- Slots without trivia side by side come to one slot, which has the strongest of their
spacings and is required if one of them is. -/
theorem gather_spacing (usual : Option Doc) (required : Bool) {slots : List Slot}
    (spacing : slots.filterMap Slot.trivia = []) :
    gather (.raw (.slot usual none required)) (slots.map fun s => .raw s.doc)
      = [.raw (.slot (mergeAll? (usual.toList ++ slots.filterMap Slot.spacing)) none
          (required || slots.any Slot.required))] := by
  induction slots generalizing usual required with
  | nil => cases usual <;> simp [gather, mergeAll?]
  | cons s slots ih =>
    obtain ⟨spacing', trivia', required'⟩ := s
    cases trivia' with
    | some kept => cases spacing
    | none =>
      have met : meet? (.raw (.slot usual none required)) (.raw (Slot.mk spacing' none required').doc)
          = some (.raw (.slot (merge? usual spacing') none (required || required'))) := rfl
      have own : (Slot.mk spacing' none required' :: slots).filterMap Slot.spacing
          = spacing'.toList ++ slots.filterMap Slot.spacing := by
        cases spacing' <;> rfl
      rw [List.map_cons, gather_of_meet? _ met, ih _ _ spacing, mergeAll?_merge?, own, List.any_cons,
        Bool.or_assoc]

theorem gathered_spacing {slots : List Slot} (nonempty : slots ≠ [])
    (spacing : slots.filterMap Slot.trivia = []) :
    gathered (slots.map fun s => .raw s.doc)
      = [.raw (.slot (mergeAll? (slots.filterMap Slot.spacing)) none (slots.any Slot.required))] := by
  cases slots with
  | nil => exact absurd rfl nonempty
  | cons s slots =>
    obtain ⟨usual, trivia, required⟩ := s
    cases trivia with
    | some kept => cases spacing
    | none =>
      have all := @gather_spacing usual required slots spacing
      cases usual <;> exact all

/-- If one of several slots side by side keeps trivia, all that they come to do. -/
theorem isKept_gather {usual trivia : Option Doc} {required : Bool} {slots : List Slot}
    (kept : trivia.isSome ∨ ∃ s ∈ slots, s.trivia.isSome) :
    ∀ c ∈ gather (.raw (.slot usual trivia required)) (slots.map fun s => .raw s.doc), c.IsKept := by
  induction slots generalizing usual trivia required with
  | nil =>
    cases trivia with
    | none => simp at kept
    | some d => exact List.forall_mem_singleton.2 rfl
  | cons s slots ih =>
    obtain ⟨usual', trivia', required'⟩ := s
    rw [List.exists_mem_cons_iff] at kept
    rw [List.map_cons]
    cases trivia with
    | none =>
      -- The first slot gives way to the second, whatever that keeps.
      cases trivia' with
      | none =>
        rw [gather_of_meet? _ rfl]
        exact ih (kept.resolve_left nofun)
      | some d' =>
        rw [gather_of_meet? _ rfl]
        exact ih (.inl rfl)
    | some d =>
      cases trivia' with
      | none =>
        rw [gather_of_meet? _ rfl]
        exact ih (.inl rfl)
      | some d' =>
        rw [gather_of_apart _ rfl]
        exact List.forall_mem_cons.2 ⟨rfl, ih (.inl rfl)⟩

/-! ## The three runs -/

/-- The control cells of a gap. -/
def gap (afters : List Doc) (slots : List Slot) (befores : List Doc) : List Cell :=
  (afters.map fun d => .raw (.after d)) ++ (slots.map fun s => .raw s.doc)
    ++ befores.map fun d => .raw (.before d)

/-- A run of slots between other cells is gathered on its own. -/
theorem gathered_run {front back : List Cell} {slots : List Slot} (nonempty : slots ≠ [])
    (opens : ∀ c ∈ front.getLast?, c.isSlot = false) (closes : ∀ c ∈ back.head?, c.isSlot = false) :
    gathered (front ++ (slots.map fun s => .raw s.doc) ++ back)
      = gathered front ++ gathered (slots.map fun s => .raw s.doc) ++ gathered back := by
  obtain ⟨s, slots, rfl⟩ := List.exists_cons_of_ne_nil nonempty
  rw [List.append_assoc, gathered_append_of_isSlot, gathered_append_of_isSlot, List.append_assoc]
  · intro c last d first
    obtain ⟨s, -, rfl⟩ := List.mem_map.1 (List.mem_of_mem_getLast? last)
    rw [closes d first]
    exact nofun
  · rintro c last _ ⟨⟩
    rw [opens c last]
    exact nofun

theorem gathered_gap (afters befores : List Doc) {slots : List Slot} (nonempty : slots ≠ []) :
    gathered (gap afters slots befores)
      = ((mergeAll? afters).map fun d => .raw (.after d)).toList
        ++ gathered (slots.map fun s => .raw s.doc)
        ++ ((mergeAll? befores).map fun d => .raw (.before d)).toList := by
  rw [gap, gathered_run nonempty, gathered_boundaries fun _ _ => rfl, gathered_boundaries fun _ _ => rfl]
  · intro c last
    obtain ⟨a, -, rfl⟩ := List.mem_map.1 (List.mem_of_mem_getLast? last)
    rfl
  · intro c first
    obtain ⟨b, -, rfl⟩ := List.mem_map.1 (List.mem_of_mem_head? first)
    rfl

/-! ## The decision -/

theorem some_guarded (result : Doc) (usual : Option Doc) (required : Bool) :
    some (guarded result usual required)
      = if required && result.isEmpty then some ((usual.filter (!·.isEmpty)).getD .space)
        else some result := by
  cases usual with
  | none => exact apply_ite some ..
  | some d => cases own : d.isEmpty <;> simp [guarded, own, Option.filter, apply_ite some]

theorem beside_eq_gapSpacing (boundary : Doc) (usual : Option Doc) (required : Bool) :
    beside boundary usual none required = Doc.gapSpacing (some boundary) none usual required := by
  cases usual <;> cases required <;> simp [Doc.gapSpacing, Doc.asked, beside, some_guarded]

theorem alone_eq_gapSpacing (usual : Option Doc) (required : Bool) :
    alone usual none required = Doc.gapSpacing none none usual required := by
  cases usual <;> cases required <;> simp [Doc.gapSpacing, Doc.asked, alone, some_guarded]

/-- A list that a rule turns into its decision is reduced to that. -/
theorem reduce_of_decided {cells : List Cell} {result : Option Doc}
    (applied : step? settle cells = some (decided settle result)) :
    reduce settle cells = decided settle result := by
  refine (reduce_of_step? applied).trans (reduce_of_contents ?_)
  cases result with
  | none => exact List.forall_mem_nil _
  | some d => exact List.forall_mem_singleton.2 rfl

/-- What one slot without trivia comes to between at most two boundary spacings. -/
theorem reduce_slot (after before usual : Option Doc) (required : Bool) :
    reduce settle ((after.map fun d => .raw (.after d)).toList ++ [.raw (.slot usual none required)]
        ++ (before.map fun d => .raw (.before d)).toList)
      = decided settle (Doc.gapSpacing after before usual required) := by
  have nothing : ∀ result, decided settle result = decided settle result ++ [] := by simp
  cases after with
  | some a =>
    cases before with
    | some b =>
      have both : some (guarded (a.merge b) usual required)
          = Doc.gapSpacing (some a) (some b) usual required := some_guarded ..
      exact both ▸ reduce_of_decided rfl
    | none =>
      rw [← beside_eq_gapSpacing]
      exact reduce_of_decided (congrArg some (nothing _).symm)
  | none =>
    cases before with
    | some b =>
      have same : Doc.gapSpacing none (some b) usual required
          = Doc.gapSpacing (some b) none usual required := rfl
      rw [same, ← beside_eq_gapSpacing]
      exact reduce_of_decided (congrArg some (nothing _).symm)
    | none =>
      rw [← alone_eq_gapSpacing]
      exact reduce_of_decided (congrArg some (nothing _).symm)

/-- If a slot of a gap keeps trivia, all that the slots come to do. -/
theorem isKept_gathered_gap (afters befores : List Doc) {slots : List Slot}
    (keeps : slots.filterMap Slot.trivia ≠ []) :
    ∀ c ∈ gathered (gap afters slots befores), c.IsKept := by
  have boundary : ∀ {o : Option Doc} {kind : Doc → Doc}, (∀ d, IsKept (.raw (kind d))) →
      ∀ c ∈ (o.map fun d => Cell.raw (kind d)).toList, c.IsKept := by
    intro o kind own c member
    obtain ⟨d, -, rfl⟩ := Option.map_eq_some_iff.1 (Option.mem_toList.1 member)
    exact own d
  obtain ⟨kept, member⟩ := List.exists_mem_of_ne_nil _ keeps
  obtain ⟨s, inside, trivia⟩ := List.mem_filterMap.1 member
  have holds : ∃ s ∈ slots, s.trivia.isSome := ⟨s, inside, trivia ▸ rfl⟩
  have own : ∀ c ∈ gathered (slots.map fun s => .raw s.doc), c.IsKept := by
    cases slots with
    | nil => cases inside
    | cons s slots => exact isKept_gather ((List.exists_mem_cons_iff ..).1 holds)
  rw [gathered_gap afters befores (List.ne_nil_of_mem inside), List.forall_mem_append,
    List.forall_mem_append]
  exact ⟨⟨boundary fun _ => rfl, own⟩, boundary fun _ => rfl⟩

theorem outcome_gap (afters befores : List Doc) (slots : List Slot) :
    (gap afters slots befores).flatMap (outcome settle)
      = (slots.filterMap Slot.trivia).map fun d => .settled (settle d) := by
  have trivia : slots.flatMap (fun s => outcome settle (.raw s.doc))
      = (slots.filterMap Slot.trivia).map fun d => .settled (settle d) := by
    rw [List.map_filterMap, List.filterMap_eq_flatMap_toList]
    rfl
  have afters' : (afters.flatMap fun d => outcome settle (.raw (.after d))) = [] :=
    List.flatMap_eq_nil_iff.2 fun _ _ => rfl
  have befores' : (befores.flatMap fun d => outcome settle (.raw (.before d))) = [] :=
    List.flatMap_eq_nil_iff.2 fun _ _ => rfl
  rw [gap, List.flatMap_append, List.flatMap_append, List.flatMap_map, List.flatMap_map, List.flatMap_map,
    trivia, afters', befores', List.nil_append, List.append_nil]

/-- The control cells of a gap come to its content. -/
theorem reduce_gap (afters befores : List Doc) {slots : List Slot} (nonempty : slots ≠ []) :
    reduce settle (gap afters slots befores)
      = (Doc.gapContent afters slots befores).map fun d => .settled (settle d) := by
  unfold Doc.gapContent
  split
  · next spacing =>
    rw [reduce_gathered, gathered_gap afters befores nonempty, gathered_spacing nonempty spacing,
      reduce_slot]
    cases Doc.gapSpacing .. <;> rfl
  · next keeps =>
    rw [reduce_gathered, reduce_of_kept (isKept_gathered_gap afters befores keeps), outcome_gathered,
      outcome_gap]

end Reprint.Cell

namespace Reprint.Doc

/-! ## Two texts with control nodes between them -/

/-- A leaf or a control node, which opening leaves as it is. -/
def isFlat : Doc → Bool
  | .leaf _ | .after _ | .before _ | .slot .. => true
  | _ => false

theorem isFlat_of_isControl {d : Doc} (control : d.isControl) : d.isFlat := by
  cases d with
  | after | before | slot => rfl
  | _ => cases control

theorem expand_of_isFlat {d : Doc} (flat : d.isFlat) : d.expand = d := by
  cases d with
  | leaf | after | before | slot => rfl
  | _ => cases flat

theorem opened_of_isFlat {d : Doc} (flat : d.isFlat) : d.opened = [d] := by
  cases d with
  | leaf | after | before | slot => rfl
  | _ => cases flat

/-- A list of leaves and control nodes is opened already. -/
theorem opened_seq {ds : List Doc} (flat : ∀ d ∈ ds, d.isFlat) : (Doc.seq ds).opened = ds := by
  rw [opened_seq_eq_flatMap, List.flatMap_congr fun d member => opened_of_isFlat (flat d member),
    List.flatMap_singleton']

theorem toCells_of_isFlat (settle : Doc → Doc) {ds : List Doc} (flat : ∀ d ∈ ds, d.isFlat) :
    toCells settle ds = ds.map .raw := by
  rw [toCells_eq_map]
  refine List.map_congr_left fun d member => ?_
  have own := flat d member
  cases d with
  | leaf | after | before | slot => rfl
  | _ => cases own

/-- A list of leaves and control nodes is reduced as it stands. -/
theorem resolve_of_isFlat {ds : List Doc} (flat : ∀ d ∈ ds, d.isFlat) :
    resolve (.seq ds) = (concat ((Cell.reduce resolve (ds.map .raw)).map Cell.doc)).sink := by
  rw [resolve_eq, resolveWith_eq, opened_seq flat, toCells_of_isFlat resolve flat, assemble,
    Cell.sweep_eq_reduce, List.nil_append]

/-- What stands between two leaves is reduced, together with the first one, and the second
one closes it off. -/
theorem resolve_between (l l' : Leaf) {ds : List Doc} (controls : ∀ d ∈ ds, d.isControl) :
    resolve (.seq (.leaf l :: ds ++ [.leaf l']))
      = (concat ((Cell.reduce resolve (.raw (.leaf l) :: ds.map .raw)).map Cell.doc
          ++ [.leaf l'])).sink := by
  have flat : ∀ d ∈ .leaf l :: ds ++ [.leaf l'], d.isFlat := by
    rw [List.forall_mem_append, List.forall_mem_cons, List.forall_mem_singleton]
    exact ⟨⟨rfl, fun d member => isFlat_of_isControl (controls d member)⟩, rfl⟩
  have shut : Cell.Shut [.raw (.leaf l')] := by
    rintro _ ⟨⟩
    rfl
  have last : Cell.reduce resolve [.raw (.leaf l')] = [.raw (.leaf l')] :=
    Cell.reduce_of_contents (List.forall_mem_singleton.2 rfl)
  rw [resolve_of_isFlat flat, List.map_append, List.map_cons, List.map_singleton,
    Cell.reduce_append shut, last, List.map_append]
  rfl

/-- A gap between two texts comes to its content, each document of it resolved. -/
theorem resolve_gap {x : String} (line : x ≠ "\n") (y : String) (afters befores : List Doc)
    {slots : List Slot} (nonempty : slots ≠ []) :
    resolve (.seq (.text x :: (afters.map .after ++ slots.map Slot.doc ++ befores.map .before)
        ++ [.text y]))
      = (concat (.text x :: (gapContent afters slots befores).map resolve ++ [.text y])).sink := by
  have controls : ∀ d ∈ afters.map after ++ slots.map Slot.doc ++ befores.map before, d.isControl := by
    simp only [List.forall_mem_append, List.forall_mem_map]
    exact ⟨⟨fun _ _ => rfl, fun _ _ => rfl⟩, fun _ _ => rfl⟩
  have cells : (afters.map after ++ slots.map Slot.doc ++ befores.map before).map Cell.raw
      = Cell.gap afters slots befores := by
    simp only [List.map_append, List.map_map]
    rfl
  have own : Cell.isNewline (.raw (.text x)) = false := beq_eq_false_iff_ne.2 line
  have between := resolve_between (.text x) (.text y) controls
  rw [cells, Cell.reduce_cons rfl own, Cell.reduce_gap afters befores nonempty, List.map_cons,
    List.map_map] at between
  exact between

/-- Empty spacing and a slot without spacing that is required come to a space. -/
theorem resolve_gap_emptyRequired :
    "a" ≠ "\n" ∧
      resolve (.seq [.text "a", .after .empty, .slot none none true, .slot (some .empty) none false,
          .text "b"])
        = .seq [.text "a", .space, .text "b"] := by
  refine ⟨by decide, ?_⟩
  have closed := @resolve_gap "a" (by decide) "b" [.empty] []
    [⟨none, none, true⟩, ⟨some .empty, none, false⟩] nofun
  refine closed.trans ?_
  have space : resolve .space = .space := resolveWith_leaf id .space
  simp [gapContent, gapSpacing, asked, mergeAll?, space, concat, splice, items, isEmpty, ofParts, sink,
    sinkAll, moveBreaks, Option.filter]

end Reprint.Doc
