import Mathlib.Data.List.Basic
import Reprint.Doc.Resolve

/-!
# What the reduction makes of a list of cells

Whatever order the rules are applied in, the outcome is the list of cells with
each slot that keeps trivia replaced by that trivia, all other control cells
dropped, and spacing put somewhere between.  A line end as text may have become
a hard one.  `Fills` says so, and `fills_sweep` that the pass over a list of
cells does nothing else.

What a rule puts in is the trivia or the spacing of a control node that it met.
`Doc.Meets` says of a control node what its spacing and its trivia satisfy; the
rules keep that (`step?_sound`), and the outcome depends on the documents
that it speaks of alone (`sweep_congr`).
-/

namespace Reprint

/-- The spacing that a control node can come to satisfies `spacing`, and the
trivia that it keeps satisfies `trivia`. -/
def Doc.Meets (spacing trivia : Doc → Prop) : Doc → Prop
  | .after d => spacing d
  | .before d => spacing d
  | .slot usual kept required =>
    (∀ d ∈ usual, spacing d) ∧ (∀ d ∈ kept, trivia d) ∧ (kept = none → required → spacing .space)
  | _ => True

theorem Doc.Meets.mono {spacing spacing' trivia trivia' : Doc → Prop} {d : Doc}
    (meets : d.Meets spacing trivia) (weaker : ∀ x, spacing x → spacing' x)
    (weaker' : ∀ x, trivia x → trivia' x) : d.Meets spacing' trivia' := by
  cases d with
  | after x => exact weaker x meets
  | before x => exact weaker x meets
  | slot usual kept required =>
    obtain ⟨own, trivia, default⟩ := meets
    exact ⟨fun x member => weaker x (own x member), fun x member => weaker' x (trivia x member),
      fun none needed => weaker _ (default none needed)⟩
  | _ => trivial

theorem Doc.merge_induction {P : Doc → Prop} {a b : Doc} (left : P a) (right : P b) : P (a.merge b) := by
  unfold Doc.merge
  split
  · split
    · exact right
    · exact left
  · exact right
  · exact left

theorem Doc.merge?_induction {P : Doc → Prop} {a b : Option Doc} (left : ∀ d ∈ a, P d)
    (right : ∀ d ∈ b, P d) : ∀ d ∈ Doc.merge? a b, P d := by
  intro d member
  match a, b with
  | some x, some y =>
    rw [← Option.some.inj member]
    exact Doc.merge_induction (left x rfl) (right y rfl)
  | some x, none => exact left d member
  | none, _ => exact right d member

namespace Cell

variable {spacing trivia : Doc → Prop}

/-- The same of the document in a cell, as long as the rules may look at it. -/
def Meets (spacing trivia : Doc → Prop) : Cell → Prop
  | .raw d => d.Meets spacing trivia
  | .settled _ => True

/-! ## What a rule chooses -/

/-- A slot comes to the trivia that it keeps.  Without trivia it comes to
nothing or to spacing. -/
def Chooses (spacing : Doc → Prop) (kept result : Option Doc) : Prop :=
  match kept with
  | some d => result = some d
  | none => ∀ d ∈ result, spacing d

theorem guarded_induction {result : Doc} {usual : Option Doc} {required : Bool} (own : spacing result)
    (others : ∀ d ∈ usual, spacing d) (default : required → spacing .space) :
    spacing (guarded result usual required) := by
  unfold guarded
  split_ifs with needed
  · have space : spacing .space := default (Bool.and_eq_true_iff.1 needed).1
    split
    · next d =>
      split_ifs
      · exact space
      · exact others d rfl
    · exact space
  · exact own

theorem chooses_between {a b : Doc} {usual kept : Option Doc} {required : Bool} (after : spacing a)
    (before : spacing b) (slot : (Doc.slot usual kept required).Meets spacing trivia) :
    Chooses spacing kept (some (kept.getD (guarded (a.merge b) usual required))) := by
  cases kept with
  | some d => rfl
  | none =>
    intro d member
    rw [← Option.some.inj member]
    exact guarded_induction (Doc.merge_induction after before) slot.1 (slot.2.2 rfl)

theorem chooses_beside {boundary : Doc} {usual kept : Option Doc} {required : Bool}
    (own : spacing boundary) (slot : (Doc.slot usual kept required).Meets spacing trivia) :
    Chooses spacing kept (beside boundary usual kept required) := by
  cases kept with
  | some d => rfl
  | none =>
    intro d member
    unfold beside at member
    split_ifs at member
    · rw [← Option.some.inj member]
      exact guarded_induction own slot.1 (slot.2.2 rfl)
    · cases member

theorem chooses_alone {usual kept : Option Doc} {required : Bool}
    (slot : (Doc.slot usual kept required).Meets spacing trivia) :
    Chooses spacing kept (alone usual kept required) := by
  cases kept with
  | some d => rfl
  | none =>
    intro d member
    cases usual with
    | some own =>
      rw [← Option.some.inj member]
      exact guarded_induction (slot.1 own rfl) slot.1 (slot.2.2 rfl)
    | none =>
      unfold alone at member
      split_ifs at member with needed
      · exact Option.some.inj member ▸ slot.2.2 rfl needed
      · cases member

/-! ## The outcome -/

variable (settle : Doc → Doc)

/-- What becomes of one cell. -/
inductive Yields : Cell → List Cell → Prop
  | content {c : Cell} : c.isControl = false → Yields c [c]
  | newline {c : Cell} : c.isNewline → Yields c [.settled (.hardline 0)]
  | kept (usual : Option Doc) (d : Doc) (required : Bool) :
      Yields (.raw (.slot usual (some d) required)) [.settled (settle d)]
  | slot (usual : Option Doc) (required : Bool) : Yields (.raw (.slot usual none required)) []
  | after (d : Doc) : Yields (.raw (.after d)) []
  | before (d : Doc) : Yields (.raw (.before d)) []

/-- What may become of a list of cells: what becomes of each one, and settled
spacing between. -/
inductive Fills (spacing : Doc → Prop) : List Cell → List Cell → Prop
  | nil : Fills spacing [] []
  | cell {c : Cell} {found cs out : List Cell} :
      Yields settle c found → Fills spacing cs out → Fills spacing (c :: cs) (found ++ out)
  | spacing {d : Doc} {cs out : List Cell} :
      spacing d → Fills spacing cs out → Fills spacing cs (.settled (settle d) :: out)

namespace Fills

variable {settle}

theorem append {cs ds out out' : List Cell} (left : Fills settle spacing cs out)
    (right : Fills settle spacing ds out') : Fills settle spacing (cs ++ ds) (out ++ out') := by
  induction left with
  | nil => exact right
  | cell yields _ ih =>
    rw [List.append_assoc]
    exact .cell yields ih
  | spacing own _ ih => exact .spacing own ih

/-- Cells without control cells may stay as they are. -/
theorem refl {cs : List Cell} (contents : ∀ c ∈ cs, c.isControl = false) :
    Fills settle spacing cs cs := by
  induction cs with
  | nil => exact .nil
  | cons c cs ih =>
    obtain ⟨first, others⟩ := List.forall_mem_cons.1 contents
    exact .cell (.content first) (ih others)

/-- To fill other cells as a list was filled it is enough to do so from what
became of its first cell on. -/
theorem replace_head {c : Cell} {cs ds out : List Cell} (filled : Fills settle spacing (c :: cs) out)
    (step : ∀ found rest, Yields settle c found → Fills settle spacing cs rest →
      Fills settle spacing ds (found ++ rest)) : Fills settle spacing ds out := by
  generalize same : c :: cs = cells at filled
  induction filled with
  | nil => cases same
  | cell yields rest =>
    cases same
    exact step _ _ yields rest
  | spacing own _ ih => exact .spacing own (ih same)

/-- A slot and what is chosen for it. -/
theorem slot {usual kept result : Option Doc} {required : Bool} {cs out : List Cell}
    (chosen : Chooses spacing kept result) (filled : Fills settle spacing cs out) :
    Fills settle spacing (.raw (.slot usual kept required) :: cs) (decided settle result ++ out) := by
  cases kept with
  | some d =>
    rw [show result = some d from chosen]
    exact .cell (.kept usual d required) filled
  | none =>
    have dropped : Fills settle spacing (.raw (.slot usual none required) :: cs) out :=
      .cell (.slot usual required) filled
    cases result with
    | none => exact dropped
    | some d => exact .spacing (chosen d rfl) dropped

/-- What is settled stays. -/
theorem of_settled {d : Doc} {cs ds out : List Cell}
    (filled : Fills settle spacing (.settled d :: cs) out)
    (step : ∀ rest, Fills settle spacing cs rest → Fills settle spacing ds (.settled d :: rest)) :
    Fills settle spacing ds out := by
  refine filled.replace_head ?_
  intro found rest yields behind
  cases yields with
  | content => exact step rest behind
  | newline line => cases line

theorem of_decided {result : Option Doc} {cs ds out : List Cell}
    (filled : Fills settle spacing (decided settle result ++ cs) out)
    (step : ∀ rest, Fills settle spacing cs rest →
      Fills settle spacing ds (decided settle result ++ rest)) : Fills settle spacing ds out := by
  cases result with
  | none => exact step out filled
  | some d => exact filled.of_settled step

end Fills

/-! ## One step -/

/-- A rule that keeps what is known of the control cells and only does what
`Fills` allows. -/
def Rule.Sound (spacing trivia : Doc → Prop) (rule : Rule) : Prop :=
  ∀ cells next, rule cells = some next → (∀ c ∈ cells, c.Meets spacing trivia) →
    (∀ c ∈ next, c.Meets spacing trivia) ∧
      ∀ out, Fills settle spacing next out → Fills settle spacing cells out

theorem meets_decided (result : Option Doc) :
    ∀ c ∈ decided settle result, c.Meets spacing trivia := by
  cases result with
  | none => exact List.forall_mem_nil _
  | some d => exact List.forall_mem_singleton.2 trivial

/-- Dropped cells may stand in front. -/
theorem Fills.drop {c : Cell} {cs out : List Cell} (yields : Yields settle c [])
    (filled : Fills settle spacing cs out) : Fills settle spacing (c :: cs) out :=
  .cell yields filled

/-- Two cells that are dropped do what one does that is dropped. -/
theorem Fills.of_dropped {c : Cell} {cs ds out : List Cell}
    (filled : Fills settle spacing (c :: cs) out) (control : c.isControl)
    (bare : ∀ usual d required, c ≠ .raw (.slot usual (some d) required))
    (step : ∀ rest, Fills settle spacing cs rest → Fills settle spacing ds rest) :
    Fills settle spacing ds out := by
  refine filled.replace_head ?_
  intro found rest yields behind
  cases yields with
  | content no =>
    rw [no] at control
    cases control
  | newline line =>
    unfold isNewline at line
    split at line
    · cases control
    · cases line
  | kept usual d required => exact absurd rfl (bare usual d required)
  | slot | after | before => exact step rest behind

/-- A slot that keeps trivia does what it does beside a slot that keeps none. -/
theorem Fills.of_kept {usual : Option Doc} {d : Doc} {required : Bool} {cs ds out : List Cell}
    (filled : Fills settle spacing (.raw (.slot usual (some d) required) :: cs) out)
    (step : ∀ rest, Fills settle spacing cs rest →
      Fills settle spacing ds (.settled (settle d) :: rest)) : Fills settle spacing ds out := by
  refine filled.replace_head ?_
  intro found rest yields behind
  cases yields with
  | content no => cases no
  | newline line => cases line
  | kept => exact step rest behind

theorem collapse_sound : collapse.Sound settle spacing trivia := by
  intro cells next applied meets
  unfold collapse at applied
  split at applied
  · obtain rfl := Option.some.inj applied
    obtain ⟨first, second, others⟩ := by simpa only [List.forall_mem_cons] using meets
    refine ⟨List.forall_mem_cons.2 ⟨Doc.merge_induction (P := spacing) first second, others⟩, ?_⟩
    intro out filled
    refine filled.of_dropped settle rfl (fun _ _ _ => nofun) ?_
    intro rest filled
    exact .drop settle (.before _) (.drop settle (.before _) filled)
  · obtain rfl := Option.some.inj applied
    obtain ⟨first, second, others⟩ := by simpa only [List.forall_mem_cons] using meets
    refine ⟨List.forall_mem_cons.2 ⟨Doc.merge_induction (P := spacing) first second, others⟩, ?_⟩
    intro out filled
    refine filled.of_dropped settle rfl (fun _ _ _ => nofun) ?_
    intro rest filled
    exact .drop settle (.after _) (.drop settle (.after _) filled)
  · obtain ⟨first, second, others⟩ := by simpa only [List.forall_mem_cons] using meets
    split at applied
    · cases applied
    · obtain rfl := Option.some.inj applied
      refine ⟨List.forall_mem_cons.2 ⟨⟨first.1, first.2.1, nofun⟩, others⟩, ?_⟩
      intro out filled
      refine filled.of_kept settle ?_
      intro rest filled
      exact .cell (.kept _ _ _) (.drop settle (.slot _ _) filled)
    · obtain rfl := Option.some.inj applied
      refine ⟨List.forall_mem_cons.2 ⟨⟨second.1, second.2.1, nofun⟩, others⟩, ?_⟩
      intro out filled
      refine filled.of_kept settle ?_
      intro rest filled
      exact .drop settle (.slot _ _) (.cell (.kept _ _ _) filled)
    · obtain rfl := Option.some.inj applied
      refine ⟨List.forall_mem_cons.2 ⟨⟨Doc.merge?_induction first.1 second.1, nofun, ?_⟩, others⟩, ?_⟩
      · intro _ needed
        rcases Bool.or_eq_true_iff.1 needed with needed | needed
        · exact first.2.2 rfl needed
        · exact second.2.2 rfl needed
      · intro out filled
        refine filled.of_dropped settle rfl (fun _ _ _ => nofun) ?_
        intro rest filled
        exact .drop settle (.slot _ _) (.drop settle (.slot _ _) filled)
  · cases applied

theorem afterSlotBefore_sound : (afterSlotBefore settle).Sound settle spacing trivia := by
  intro cells next applied meets
  unfold afterSlotBefore at applied
  split at applied
  · next a usual kept required b cs =>
    obtain rfl := Option.some.inj applied
    obtain ⟨after, slot, before, others⟩ := by simpa only [List.forall_mem_cons] using meets
    refine ⟨List.forall_mem_cons.2 ⟨trivial, others⟩, ?_⟩
    intro out filled
    refine filled.of_settled ?_
    intro rest filled
    have chosen := chooses_between after before slot
    exact .drop settle (.after a) (.slot chosen (.drop settle (.before b) filled))
  · cases applied

theorem afterSlot_sound : (afterSlot settle).Sound settle spacing trivia := by
  intro cells next applied meets
  unfold afterSlot at applied
  split at applied
  · next a usual kept required cs =>
    obtain rfl := Option.some.inj applied
    obtain ⟨after, slot, others⟩ := by simpa only [List.forall_mem_cons] using meets
    refine ⟨List.forall_mem_append.2 ⟨meets_decided settle _, others⟩, ?_⟩
    intro out filled
    refine filled.of_decided ?_
    intro rest filled
    exact .drop settle (.after a) (.slot (chooses_beside after slot) filled)
  · cases applied

theorem slotBefore_sound : (slotBefore settle).Sound settle spacing trivia := by
  intro cells next applied meets
  unfold slotBefore at applied
  split at applied
  · next usual kept required b cs =>
    obtain rfl := Option.some.inj applied
    obtain ⟨slot, before, others⟩ := by simpa only [List.forall_mem_cons] using meets
    refine ⟨List.forall_mem_append.2 ⟨meets_decided settle _, others⟩, ?_⟩
    intro out filled
    refine filled.of_decided ?_
    intro rest filled
    exact .slot (chooses_beside before slot) (.drop settle (.before b) filled)
  · cases applied

theorem newlineSlot_sound : newlineSlot.Sound settle spacing trivia := by
  intro cells next applied meets
  unfold newlineSlot at applied
  split at applied
  · next text usual required cs =>
    split_ifs at applied with line
    · obtain rfl := Option.some.inj applied
      obtain ⟨_, _, others⟩ := by simpa only [List.forall_mem_cons] using meets
      refine ⟨List.forall_mem_cons.2 ⟨trivial, others⟩, ?_⟩
      intro out filled
      refine filled.of_settled ?_
      intro rest filled
      have ended : isNewline (.raw (.text text)) := line
      exact .cell (.newline ended) (.drop settle (.slot _ _) filled)
  · cases applied

theorem loneSlot_sound : (loneSlot settle).Sound settle spacing trivia := by
  intro cells next applied meets
  unfold loneSlot at applied
  split at applied
  · obtain rfl := Option.some.inj applied
    obtain ⟨slot, others⟩ := List.forall_mem_cons.1 meets
    refine ⟨List.forall_mem_append.2 ⟨meets_decided settle _, others⟩, ?_⟩
    intro out filled
    refine filled.of_decided ?_
    intro rest filled
    exact .slot (chooses_alone slot) filled
  · cases applied

theorem loneBoundary_sound : loneBoundary.Sound settle spacing trivia := by
  intro cells next applied meets
  unfold loneBoundary at applied
  split at applied
  · obtain rfl := Option.some.inj applied
    exact ⟨(List.forall_mem_cons.1 meets).2, fun out filled => .drop settle (.after _) filled⟩
  · obtain rfl := Option.some.inj applied
    exact ⟨(List.forall_mem_cons.1 meets).2, fun out filled => .drop settle (.before _) filled⟩
  · cases applied

theorem rules_sound : ∀ rule ∈ rules settle, rule.Sound settle spacing trivia := by
  intro rule member
  simp only [rules, List.mem_cons, List.not_mem_nil, or_false] at member
  obtain rfl | rfl | rfl | rfl | rfl | rfl | rfl := member
  · exact collapse_sound settle
  · exact afterSlotBefore_sound settle
  · exact afterSlot_sound settle
  · exact slotBefore_sound settle
  · exact newlineSlot_sound settle
  · exact loneSlot_sound settle
  · exact loneBoundary_sound settle

variable {settle}

theorem Rule.Sound.leftmost {rule : Rule} (sound : rule.Sound settle spacing trivia) :
    rule.leftmost.Sound settle spacing trivia := by
  intro cells
  induction cells with
  | nil =>
    intro next applied
    cases applied
  | cons c cs ih =>
    intro next applied meets
    unfold Rule.leftmost at applied
    split at applied
    · next here =>
      obtain rfl := Option.some.inj applied
      exact sound _ _ here meets
    · obtain ⟨rest, further, rfl⟩ := Option.map_eq_some_iff.1 applied
      obtain ⟨first, others⟩ := List.forall_mem_cons.1 meets
      obtain ⟨meets', fills⟩ := ih rest further others
      refine ⟨List.forall_mem_cons.2 ⟨first, meets'⟩, ?_⟩
      intro out filled
      refine filled.replace_head ?_
      intro found rest yields filled
      exact .cell yields (fills rest filled)

theorem step?_sound : Rule.Sound settle spacing trivia (step? settle) := by
  intro cells next applied meets
  obtain ⟨rule, member, applied⟩ := List.exists_of_findSome?_eq_some applied
  exact (rules_sound settle rule member).leftmost cells next applied meets

/-! ## The whole reduction -/

/-- Where no rule fits there is no control cell left. -/
theorem isControl_of_step?_eq_none {cells : List Cell} (stuck : step? settle cells = none) :
    ∀ c ∈ cells, c.isControl = false := by
  have slots : (loneSlot settle).leftmost cells = none :=
    List.findSome?_eq_none_iff.1 stuck _ (by simp [rules])
  have boundaries : loneBoundary.leftmost cells = none :=
    List.findSome?_eq_none_iff.1 stuck _ (by simp [rules])
  clear stuck
  induction cells with
  | nil => exact List.forall_mem_nil _
  | cons c cs ih =>
    unfold Rule.leftmost at slots boundaries
    split at slots
    · cases slots
    · next noSlot =>
      split at boundaries
      · cases boundaries
      · next noBoundary =>
        refine List.forall_mem_cons.2 ⟨?_, ih (Option.map_eq_none_iff.1 slots)
          (Option.map_eq_none_iff.1 boundaries)⟩
        cases c with
        | settled _ => rfl
        | raw d =>
          cases d with
          | after => cases noBoundary
          | before => cases noBoundary
          | slot => cases noSlot
          | _ => rfl

/-- Without control cells there is nothing to reduce. -/
theorem reduce_of_contents {cells : List Cell} (contents : ∀ c ∈ cells, c.isControl = false) :
    reduce settle cells = cells := by
  have none : controls cells = 0 := List.countP_eq_zero.2 fun c member => by simp [contents c member]
  rw [reduce.eq_def]
  split
  · next applied =>
    have fewer := controls_lt_of_step? settle applied
    omega
  · rfl

theorem fills_reduce {cells : List Cell} (meets : ∀ c ∈ cells, c.Meets spacing trivia) :
    Fills settle spacing cells (reduce settle cells) := by
  fun_induction reduce settle cells with
  | case1 cells next applied ih =>
    obtain ⟨meets', fills⟩ := step?_sound cells next applied meets
    exact fills _ (ih meets')
  | case2 cells stuck => exact .refl (isControl_of_step?_eq_none stuck)

/-- The pass over a list of cells does what `Fills` allows. -/
theorem fills_sweep (settle : Doc → Doc) (run : List Cell) {cells : List Cell}
    (meets : ∀ c ∈ run ++ cells, c.Meets spacing trivia) :
    Fills settle spacing (run ++ cells) (Doc.sweep settle run cells) := by
  induction cells generalizing run with
  | nil =>
    rw [List.append_nil] at meets ⊢
    exact fills_reduce meets
  | cons c cs ih =>
    obtain ⟨before, here, behind⟩ := by
      simpa only [List.forall_mem_append, List.forall_mem_cons] using meets
    unfold Doc.sweep
    split_ifs with control newline
    · have grown := ih (run ++ [c])
      rw [List.append_assoc, List.singleton_append] at grown
      exact grown meets
    · exact (fills_reduce before).append (ih [c] (List.forall_mem_cons.2 ⟨here, behind⟩))
    · refine (fills_reduce before).append (.cell (.content ?_) (ih [] behind))
      exact Bool.not_eq_true _ ▸ control

/-! ## What the outcome depends on -/

section Congruence

variable {f g : Doc → Doc} (usual : ∀ d, spacing d → f d = g d) (kept : ∀ d, trivia d → f d = g d)
include usual kept

theorem decided_congr {own result : Option Doc} (held : ∀ d ∈ own, trivia d)
    (chosen : Chooses spacing own result) : decided f result = decided g result := by
  cases result with
  | none => rfl
  | some d =>
    cases own with
    | some e =>
      have same : d = e := Option.some.inj chosen
      simp only [decided, Option.map_some, same, kept e (held e rfl)]
    | none => simp only [decided, Option.map_some, usual d (chosen d rfl)]

/-- Two rules that do the same on cells that satisfy what is known. -/
def Rule.Agree (spacing trivia : Doc → Prop) (rule rule' : Rule) : Prop :=
  ∀ cells, (∀ c ∈ cells, c.Meets spacing trivia) → rule cells = rule' cells

theorem afterSlotBefore_agree :
    Rule.Agree spacing trivia (afterSlotBefore f) (afterSlotBefore g) := by
  intro cells meets
  unfold afterSlotBefore
  split
  · obtain ⟨after, slot, before, others⟩ := by simpa only [List.forall_mem_cons] using meets
    have same := decided_congr usual kept slot.2.1 (chooses_between after before slot)
    simp only [decided, Option.map_some, Option.toList_some, List.cons.injEq, and_true] at same
    rw [same]
  · rfl

theorem afterSlot_agree : Rule.Agree spacing trivia (afterSlot f) (afterSlot g) := by
  intro cells meets
  unfold afterSlot
  split
  · obtain ⟨after, slot, others⟩ := by simpa only [List.forall_mem_cons] using meets
    rw [decided_congr usual kept slot.2.1 (chooses_beside after slot)]
  · rfl

theorem slotBefore_agree : Rule.Agree spacing trivia (slotBefore f) (slotBefore g) := by
  intro cells meets
  unfold slotBefore
  split
  · obtain ⟨slot, before, others⟩ := by simpa only [List.forall_mem_cons] using meets
    rw [decided_congr usual kept slot.2.1 (chooses_beside before slot)]
  · rfl

theorem loneSlot_agree : Rule.Agree spacing trivia (loneSlot f) (loneSlot g) := by
  intro cells meets
  unfold loneSlot
  split
  · obtain ⟨slot, others⟩ := List.forall_mem_cons.1 meets
    rw [decided_congr usual kept slot.2.1 (chooses_alone slot)]
  · rfl

omit usual kept in
theorem Rule.Agree.leftmost {rule rule' : Rule} (agree : Rule.Agree spacing trivia rule rule') :
    Rule.Agree spacing trivia rule.leftmost rule'.leftmost := by
  intro cells meets
  induction cells with
  | nil => rfl
  | cons c cs ih =>
    rw [Rule.leftmost, Rule.leftmost, agree _ meets, ih (List.forall_mem_cons.1 meets).2]

theorem step?_agree : Rule.Agree spacing trivia (step? f) (step? g) := by
  intro cells meets
  have between := (afterSlotBefore_agree usual kept).leftmost cells meets
  have after := (afterSlot_agree usual kept).leftmost cells meets
  have before := (slotBefore_agree usual kept).leftmost cells meets
  have alone := (loneSlot_agree usual kept).leftmost cells meets
  simp only [step?, rules, List.findSome?_cons, List.findSome?_nil, between, after, before, alone]

theorem reduce_congr {cells : List Cell} (meets : ∀ c ∈ cells, c.Meets spacing trivia) :
    reduce f cells = reduce g cells := by
  fun_induction reduce f cells with
  | case1 cells next applied ih =>
    rw [ih (step?_sound cells next applied meets).1]
    conv_rhs => rw [reduce.eq_def]
    split
    · next next' applied' =>
      rw [← step?_agree usual kept cells meets, applied] at applied'
      rw [Option.some.inj applied']
    · next stuck =>
      rw [← step?_agree usual kept cells meets, applied] at stuck
      cases stuck
  | case2 cells stuck =>
    rw [step?_agree usual kept cells meets] at stuck
    rw [reduce.eq_def]
    split
    · next applied =>
      rw [stuck] at applied
      cases applied
    · rfl

/-- The pass over a list of cells depends on how the spacing and the trivia of
its control cells are finished, and on no other document. -/
theorem sweep_congr (run : List Cell) {cells : List Cell}
    (meets : ∀ c ∈ run ++ cells, c.Meets spacing trivia) :
    Doc.sweep f run cells = Doc.sweep g run cells := by
  induction cells generalizing run with
  | nil =>
    rw [List.append_nil] at meets
    exact reduce_congr usual kept meets
  | cons c cs ih =>
    obtain ⟨before, here, behind⟩ := by
      simpa only [List.forall_mem_append, List.forall_mem_cons] using meets
    have grown := ih (run ++ [c])
    rw [List.append_assoc, List.singleton_append] at grown
    simp only [Doc.sweep, reduce_congr usual kept before, ih [] behind, grown meets,
      ih [c] (List.forall_mem_cons.2 ⟨here, behind⟩)]

end Congruence

end Cell

end Reprint
