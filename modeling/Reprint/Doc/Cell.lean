import Reprint.Doc.Spacing

/-!
# Reducing control nodes

A list of parts is worked on as a list of cells.  Seven rules, tried from the
strongest to the weakest and each at the leftmost place where it fits, replace
control cells until none is left:

* two control nodes of one kind side by side become one; trivia beats spacing;
* after-spacing, slot, before-spacing: the slot's trivia, or the stronger spacing;
* after-spacing, slot: the slot's trivia, or the after-spacing;
* slot, before-spacing: the slot's trivia, or the before-spacing;
* a line end as text and a slot with spacing only: a hard line end;
* a slot alone: its trivia, or its spacing;
* an after- or before-spacing alone: nothing.

Each rule lowers the number of control cells, so the reduction ends.
-/

namespace Reprint

/-- A part of the list under reduction. -/
inductive Cell where
  /-- A document the rules may look at. -/
  | raw (d : Doc)
  /-- Finished output that no rule looks at. -/
  | settled (d : Doc)
  deriving Inhabited

namespace Cell

def doc : Cell → Doc
  | .raw d | .settled d => d

def isControl : Cell → Bool
  | .raw d => d.isControl
  | .settled _ => false

/-- A line end written as text, which a slot after it turns into a hard line end. -/
def isNewline : Cell → Bool
  | .raw (.text s) => s == "\n"
  | _ => false

/-- The number of control cells. -/
def controls (cells : List Cell) : Nat := cells.countP isControl

/-! ## The rules, at the front of a list -/

/-- What a slot comes to if the spacing there would be `result`: a slot that
must not stay empty falls back on its usual spacing, and then on a space. -/
def guarded (result : Doc) (spacing : Option Doc) (required : Bool) : Doc :=
  if required && result.isEmpty then
    match spacing with
    | some usual => if usual.isEmpty then .space else usual
    | none => .space
  else result

/-- What a slot beside one boundary spacing comes to, if anything. -/
def beside (boundary : Doc) (spacing trivia : Option Doc) (required : Bool) : Option Doc :=
  match trivia with
  | some kept => some kept
  | none => if spacing.isSome || required then some (guarded boundary spacing required) else none

/-- What a slot with no boundary spacing comes to, if anything. -/
def alone (spacing trivia : Option Doc) (required : Bool) : Option Doc :=
  match trivia, spacing with
  | some kept, _ => some kept
  | none, some usual => some (guarded usual spacing required)
  | none, none => if required then some .space else none

/-- A rule replaces the front of a list of cells, or does not fit there. -/
abbrev Rule := List Cell → Option (List Cell)

/-- Two control nodes of one kind become one.  Two slots with trivia stay apart. -/
def collapse : Rule
  | .raw (.before a) :: .raw (.before b) :: cs => some (.raw (.before (a.merge b)) :: cs)
  | .raw (.after a) :: .raw (.after b) :: cs => some (.raw (.after (a.merge b)) :: cs)
  | .raw (.slot s t r) :: .raw (.slot s' t' r') :: cs =>
    match t, t' with
    | some _, some _ => none
    | some _, none => some (.raw (.slot s t (r || r')) :: cs)
    | none, some _ => some (.raw (.slot s' t' (r || r')) :: cs)
    | none, none => some (.raw (.slot (Doc.merge? s s') none (r || r')) :: cs)
  | _ => none

variable (settle : Doc → Doc)

/-- The cells that stand for a decision. -/
def decided (result : Option Doc) : List Cell := (result.map fun d => .settled (settle d)).toList

def afterSlotBefore : Rule
  | .raw (.after a) :: .raw (.slot s t r) :: .raw (.before b) :: cs =>
    some (.settled (settle (t.getD (guarded (a.merge b) s r))) :: cs)
  | _ => none

def afterSlot : Rule
  | .raw (.after a) :: .raw (.slot s t r) :: cs => some (decided settle (beside a s t r) ++ cs)
  | _ => none

def slotBefore : Rule
  | .raw (.slot s t r) :: .raw (.before b) :: cs => some (decided settle (beside b s t r) ++ cs)
  | _ => none

def newlineSlot : Rule
  | .raw (.text s) :: .raw (.slot (some _) none _) :: cs =>
    if s == "\n" then some (.settled (.hardline 0) :: cs) else none
  | _ => none

def loneSlot : Rule
  | .raw (.slot s t r) :: cs => some (decided settle (alone s t r) ++ cs)
  | _ => none

def loneBoundary : Rule
  | .raw (.after _) :: cs => some cs
  | .raw (.before _) :: cs => some cs
  | _ => none

/-- The rules, strongest first.  `settle` finishes the document a rule chooses. -/
def rules : List Rule :=
  [collapse, afterSlotBefore settle, afterSlot settle, slotBefore settle, newlineSlot,
    loneSlot settle, loneBoundary]

/-! ## Reduction -/

/-- A rule applied at the leftmost place where it fits. -/
def Rule.leftmost (rule : Rule) : Rule
  | [] => none
  | c :: cs =>
    match rule (c :: cs) with
    | some cells => some cells
    | none => (Rule.leftmost rule cs).map (c :: ·)

/-- The strongest rule that fits somewhere, applied there. -/
def step? (cells : List Cell) : Option (List Cell) :=
  (rules settle).findSome? fun rule => rule.leftmost cells

/-- A rule that lowers the number of control cells wherever it fits. -/
def Rule.Lowers (rule : Rule) : Prop :=
  ∀ cells next, rule cells = some next → controls next < controls cells

theorem controls_cons (c : Cell) (cs : List Cell) :
    controls (c :: cs) = controls cs + if c.isControl then 1 else 0 := by
  simp [controls, List.countP_cons]

theorem controls_append (cs ds : List Cell) : controls (cs ++ ds) = controls cs + controls ds := by
  simp [controls]

theorem controls_decided (result : Option Doc) : controls (decided settle result) = 0 := by
  cases result <;> rfl

theorem collapse_lowers : Rule.Lowers collapse := by
  intro cells next h
  unfold collapse at h
  split at h
  · obtain rfl := Option.some.inj h
    simp [controls_cons, isControl, Doc.isControl]
  · obtain rfl := Option.some.inj h
    simp [controls_cons, isControl, Doc.isControl]
  · split at h
    · cases h
    all_goals
      obtain rfl := Option.some.inj h
      simp [controls_cons, isControl, Doc.isControl]
  · cases h

theorem afterSlotBefore_lowers : Rule.Lowers (afterSlotBefore settle) := by
  intro cells next h
  unfold afterSlotBefore at h
  split at h
  · obtain rfl := Option.some.inj h
    simp [controls_cons, isControl, Doc.isControl]
    omega
  · cases h

theorem afterSlot_lowers : Rule.Lowers (afterSlot settle) := by
  intro cells next h
  unfold afterSlot at h
  split at h
  · obtain rfl := Option.some.inj h
    grind [controls_append, controls_decided, controls_cons, isControl, Doc.isControl]
  · cases h

theorem slotBefore_lowers : Rule.Lowers (slotBefore settle) := by
  intro cells next h
  unfold slotBefore at h
  split at h
  · obtain rfl := Option.some.inj h
    grind [controls_append, controls_decided, controls_cons, isControl, Doc.isControl]
  · cases h

theorem newlineSlot_lowers : Rule.Lowers newlineSlot := by
  intro cells next h
  unfold newlineSlot at h
  split at h
  · split at h
    · obtain rfl := Option.some.inj h
      simp [controls_cons, isControl, Doc.isControl]
    · cases h
  · cases h

theorem loneSlot_lowers : Rule.Lowers (loneSlot settle) := by
  intro cells next h
  unfold loneSlot at h
  split at h
  · obtain rfl := Option.some.inj h
    simp [controls_append, controls_decided, controls_cons, isControl, Doc.isControl]
  · cases h

theorem loneBoundary_lowers : Rule.Lowers loneBoundary := by
  intro cells next h
  unfold loneBoundary at h
  split at h
  · obtain rfl := Option.some.inj h
    simp [controls_cons, isControl, Doc.isControl]
  · obtain rfl := Option.some.inj h
    simp [controls_cons, isControl, Doc.isControl]
  · cases h

theorem rules_lower : ∀ rule ∈ rules settle, rule.Lowers := by
  intro rule h
  simp only [rules, List.mem_cons, List.not_mem_nil, or_false] at h
  obtain rfl | rfl | rfl | rfl | rfl | rfl | rfl := h
  · exact collapse_lowers
  · exact afterSlotBefore_lowers settle
  · exact afterSlot_lowers settle
  · exact slotBefore_lowers settle
  · exact newlineSlot_lowers
  · exact loneSlot_lowers settle
  · exact loneBoundary_lowers

theorem Rule.Lowers.leftmost {rule : Rule} (h : rule.Lowers) : Rule.Lowers rule.leftmost := by
  intro cells
  induction cells with
  | nil => intro next hn; cases hn
  | cons c cs ih =>
    intro next hn
    unfold Rule.leftmost at hn
    split at hn
    · next cells' hc =>
      obtain rfl := Option.some.inj hn
      exact h _ _ hc
    · obtain ⟨rest, hr, rfl⟩ := Option.map_eq_some_iff.1 hn
      have := ih rest hr
      simp only [controls_cons]
      omega

/-- A step lowers the number of control cells. -/
theorem controls_lt_of_step? {cells next : List Cell} (h : step? settle cells = some next) :
    controls next < controls cells := by
  obtain ⟨rule, hmem, hr⟩ := List.exists_of_findSome?_eq_some h
  exact (rules_lower settle rule hmem).leftmost cells next hr

/-- The cells reduced as far as the rules go. -/
def reduce (cells : List Cell) : List Cell :=
  match _h : step? settle cells with
  | some next => reduce next
  | none => cells
termination_by controls cells
decreasing_by exact controls_lt_of_step? settle _h

end Cell

end Reprint
