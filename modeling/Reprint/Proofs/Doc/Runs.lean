import Mathlib.Data.List.Basic
import Reprint.Doc.Resolve

/-!
# Runs of cells

A list of cells falls into runs of control cells, with the other cells between them.
No rule looks past a cell that is no control cell, except for a line end in front of
a slot, and no rule takes such a cell away.  So nothing that is done in one run
depends on the others, and a list is reduced by reducing its runs one by one
(`Cell.reduce_append`).
-/

namespace Reprint.Cell

/-! ## Windows -/

/-- A list that a run in front of it cannot reach into: it is empty or begins with a
cell that is no control cell. -/
def Shut (cs : List Cell) : Prop := ∀ c ∈ cs.head?, c.isControl = false

/-- A rule puts `out` in the place of a cell and the control cells behind it,
whatever follows them.  If the first cell is no control cell, it is a line end and
something settled takes its place. -/
structure Rule.Window (rule : Rule) (c : Cell) (controls out : List Cell) : Prop where
  fits : ∀ rest, rule (c :: controls ++ rest) = some (out ++ rest)
  isControl : ∀ d ∈ controls, d.isControl
  first : c.isControl ∨ c.isNewline ∧ ∃ d, out = [.settled d]

/-- Where a rule fits, it fits because of a window. -/
def Rule.Local (rule : Rule) : Prop :=
  ∀ cells next, rule cells = some next → ∃ c controls out rest,
    cells = c :: controls ++ rest ∧ next = out ++ rest ∧ rule.Window c controls out

variable (settle : Doc → Doc)

theorem collapse_local : Rule.Local collapse := by
  intro cells next applied
  unfold collapse at applied
  split at applied
  · next a b cs =>
    obtain rfl := Option.some.inj applied
    exact ⟨_, [.raw (.before b)], [_], cs, rfl, rfl, fun _ => rfl,
      by simp [isControl, Doc.isControl], .inl rfl⟩
  · next a b cs =>
    obtain rfl := Option.some.inj applied
    exact ⟨_, [.raw (.after b)], [_], cs, rfl, rfl, fun _ => rfl,
      by simp [isControl, Doc.isControl], .inl rfl⟩
  · next s t r s' t' r' cs =>
    split at applied
    · cases applied
    all_goals
      obtain rfl := Option.some.inj applied
      exact ⟨_, [.raw (.slot s' _ r')], [_], cs, rfl, rfl, fun _ => rfl,
        by simp [isControl, Doc.isControl], .inl rfl⟩
  · cases applied

theorem afterSlotBefore_local : Rule.Local (afterSlotBefore settle) := by
  intro cells next applied
  unfold afterSlotBefore at applied
  split at applied
  · next a s t r b cs =>
    obtain rfl := Option.some.inj applied
    exact ⟨_, [.raw (.slot s t r), .raw (.before b)], [_], cs, rfl, rfl, fun _ => rfl,
      by simp [isControl, Doc.isControl], .inl rfl⟩
  · cases applied

theorem afterSlot_local : Rule.Local (afterSlot settle) := by
  intro cells next applied
  unfold afterSlot at applied
  split at applied
  · next a s t r cs =>
    obtain rfl := Option.some.inj applied
    exact ⟨_, [.raw (.slot s t r)], _, cs, rfl, rfl, fun _ => rfl,
      by simp [isControl, Doc.isControl], .inl rfl⟩
  · cases applied

theorem slotBefore_local : Rule.Local (slotBefore settle) := by
  intro cells next applied
  unfold slotBefore at applied
  split at applied
  · next s t r b cs =>
    obtain rfl := Option.some.inj applied
    exact ⟨_, [.raw (.before b)], _, cs, rfl, rfl, fun _ => rfl,
      by simp [isControl, Doc.isControl], .inl rfl⟩
  · cases applied

theorem newlineSlot_local : Rule.Local newlineSlot := by
  intro cells next applied
  unfold newlineSlot at applied
  split at applied
  · next s usual r cs =>
    split_ifs at applied with newline
    obtain rfl := Option.some.inj applied
    refine ⟨_, [.raw (.slot (some usual) none r)], [_], cs, rfl, rfl, ?_,
      by simp [isControl, Doc.isControl], .inr ⟨newline, _, rfl⟩⟩
    intro rest
    exact if_pos newline
  · cases applied

theorem loneSlot_local : Rule.Local (loneSlot settle) := by
  intro cells next applied
  unfold loneSlot at applied
  split at applied
  · next s t r cs =>
    obtain rfl := Option.some.inj applied
    exact ⟨_, [], _, cs, rfl, rfl, fun _ => rfl, List.forall_mem_nil _, .inl rfl⟩
  · cases applied

theorem loneBoundary_local : Rule.Local loneBoundary := by
  intro cells next applied
  unfold loneBoundary at applied
  split at applied
  · next cs =>
    obtain rfl := Option.some.inj applied
    exact ⟨_, [], [], cs, rfl, rfl, fun _ => rfl, List.forall_mem_nil _, .inl rfl⟩
  · next cs =>
    obtain rfl := Option.some.inj applied
    exact ⟨_, [], [], cs, rfl, rfl, fun _ => rfl, List.forall_mem_nil _, .inl rfl⟩
  · cases applied

theorem rules_local : ∀ rule ∈ rules settle, rule.Local := by
  intro rule member
  simp only [rules, List.mem_cons, List.not_mem_nil, or_false] at member
  obtain rfl | rfl | rfl | rfl | rfl | rfl | rfl := member
  · exact collapse_local
  · exact afterSlotBefore_local settle
  · exact afterSlot_local settle
  · exact slotBefore_local settle
  · exact newlineSlot_local
  · exact loneSlot_local settle
  · exact loneBoundary_local

/-! ## Two parts of a list -/

namespace Rule.Local

variable {rule : Rule} (narrow : rule.Local) {xs ys next : List Cell}
include narrow

/-- What a rule does at the front of a list does not depend on a shut list behind. -/
theorem append (shut : Shut ys) (x : Cell) :
    rule (x :: xs ++ ys) = (rule (x :: xs)).map (· ++ ys) := by
  cases applied : rule (x :: xs) with
  | some next =>
    obtain ⟨c, controls, out, rest, same, rfl, window⟩ := narrow _ _ applied
    rw [same, List.append_assoc, window.fits, Option.map_some, List.append_assoc]
  | none =>
    cases applied' : rule (x :: xs ++ ys) with
    | none => rfl
    | some next =>
      obtain ⟨c, controls, out, rest, same, rfl, window⟩ := narrow _ _ applied'
      rw [List.cons_append, List.cons_append, List.cons.injEq] at same
      obtain ⟨rfl, same⟩ := same
      rcases List.append_eq_append_iff.1 same with ⟨beyond, rfl, rfl⟩ | ⟨behind, rfl, rfl⟩
      · cases beyond with
        | nil =>
          have fits := window.fits []
          rw [List.append_nil, List.append_nil, applied] at fits
          cases fits
        | cons y beyond =>
          -- The window would reach a cell that is no control cell.
          have control := window.isControl y (by simp)
          rw [shut y rfl] at control
          cases control
      · have fits := window.fits behind
        rw [List.cons_append, applied] at fits
        cases fits

theorem leftmost_append (shut : Shut ys) :
    rule.leftmost (xs ++ ys)
      = ((rule.leftmost xs).map (· ++ ys)).or ((rule.leftmost ys).map (xs ++ ·)) := by
  induction xs with
  | nil => simp [Rule.leftmost]
  | cons x xs ih =>
    have front : rule (x :: xs ++ ys) = (rule (x :: xs)).map (· ++ ys) := narrow.append shut x
    rw [List.cons_append] at front ⊢
    rw [Rule.leftmost, Rule.leftmost, front]
    cases rule (x :: xs) with
    | some next => rfl
    | none =>
      simp only [Option.map_none, ih, Option.map_or, Option.map_map]
      rfl

/-- No rule looks at a cell that is no control cell and no line end. -/
theorem passes {c : Cell} (control : c.isControl = false) (newline : c.isNewline = false) :
    rule (c :: xs) = none := by
  by_contra some
  obtain ⟨next, applied⟩ := Option.ne_none_iff_exists'.1 some
  obtain ⟨c', controls, out, rest, same, -, window⟩ := narrow _ _ applied
  obtain ⟨rfl, -⟩ := List.cons.inj same
  rcases window.first with own | ⟨own, -⟩
  · simp [control] at own
  · simp [newline] at own

/-- A shut list stays shut. -/
theorem shut_leftmost (shut : Shut xs) (applied : rule.leftmost xs = some next) : Shut next := by
  cases xs with
  | nil => cases applied
  | cons x xs =>
    rw [Rule.leftmost] at applied
    split at applied
    · next here =>
      obtain rfl := Option.some.inj applied
      obtain ⟨c, controls, out, rest, same, rfl, window⟩ := narrow _ _ here
      obtain ⟨rfl, -⟩ := List.cons.inj same
      rcases window.first with control | ⟨-, d, rfl⟩
      · rw [shut x rfl] at control
        cases control
      · rintro _ ⟨⟩
        rfl
    · obtain ⟨rest, -, rfl⟩ := Option.map_eq_some_iff.1 applied
      exact fun c member => shut c member

end Rule.Local

/-! ## Steps -/

variable {settle} {xs ys next : List Cell}

/-- A step in a list is a step in one of its parts. -/
theorem step?_append (shut : Shut ys) :
    (∃ xs', step? settle xs = some xs' ∧ step? settle (xs ++ ys) = some (xs' ++ ys)) ∨
      (∃ ys', step? settle ys = some ys' ∧ step? settle (xs ++ ys) = some (xs ++ ys')) ∨
      step? settle xs = none ∧ step? settle ys = none ∧ step? settle (xs ++ ys) = none := by
  unfold step?
  have narrow := rules_local settle
  generalize rules settle = rules at narrow
  induction rules with
  | nil => exact .inr (.inr ⟨rfl, rfl, rfl⟩)
  | cons rule rules ih =>
    obtain ⟨first, others⟩ := List.forall_mem_cons.1 narrow
    have both : rule.leftmost (xs ++ ys)
        = ((rule.leftmost xs).map (· ++ ys)).or ((rule.leftmost ys).map (xs ++ ·)) :=
      first.leftmost_append shut
    -- The strongest rule that fits in either part decides.
    cases front : rule.leftmost xs with
    | some xs' =>
      refine .inl ⟨xs', ?_, ?_⟩
      · rw [List.findSome?_cons, front]
      · rw [List.findSome?_cons, both, front]
        rfl
    | none =>
      cases back : rule.leftmost ys with
      | some ys' =>
        refine .inr (.inl ⟨ys', ?_, ?_⟩)
        · rw [List.findSome?_cons, back]
        · rw [List.findSome?_cons, both, front, back]
          rfl
      | none =>
        have none : rule.leftmost (xs ++ ys) = none := by rw [both, front, back]; rfl
        simp only [List.findSome?_cons, front, back, none]
        exact ih others

/-- A cell that no rule applies to stays in front of what a step does behind it. -/
theorem step?_cons_of_passed {c : Cell} (passed : ∀ rule ∈ rules settle, rule (c :: xs) = none) :
    step? settle (c :: xs) = (step? settle xs).map (c :: ·) := by
  unfold step?
  generalize rules settle = rules at passed
  induction rules with
  | nil => rfl
  | cons rule rules ih =>
    obtain ⟨first, others⟩ := List.forall_mem_cons.1 passed
    rw [List.findSome?_cons, List.findSome?_cons, Rule.leftmost, first]
    cases rule.leftmost xs with
    | some next => rfl
    | none => exact ih others

theorem step?_cons {c : Cell} (control : c.isControl = false) (newline : c.isNewline = false) :
    step? settle (c :: xs) = (step? settle xs).map (c :: ·) :=
  step?_cons_of_passed fun rule member => (rules_local settle rule member).passes control newline

theorem shut_step? (shut : Shut xs) (applied : step? settle xs = some next) : Shut next := by
  obtain ⟨rule, member, applied⟩ := List.exists_of_findSome?_eq_some applied
  exact (rules_local settle rule member).shut_leftmost shut applied

/-! ## The whole reduction -/

theorem reduce_of_step? (applied : step? settle xs = some next) :
    reduce settle xs = reduce settle next := by
  rw [reduce.eq_def]
  split
  · next next' applied' => rw [Option.some.inj (applied.symm.trans applied')]
  · next stuck => rw [stuck] at applied; cases applied

theorem reduce_of_stuck (stuck : step? settle xs = none) : reduce settle xs = xs := by
  rw [reduce.eq_def]
  split
  · next applied => rw [stuck] at applied; cases applied
  · rfl

/-- A list is reduced by reducing its parts, if the second one is shut. -/
theorem reduce_append (shut : Shut ys) :
    reduce settle (xs ++ ys) = reduce settle xs ++ reduce settle ys := by
  induction size : controls (xs ++ ys) using Nat.strongRecOn generalizing xs ys with
  | ind n ih =>
    subst size
    rcases step?_append shut with
      ⟨xs', front, both⟩ | ⟨ys', back, both⟩ | ⟨front, back, both⟩
    · rw [reduce_of_step? both, reduce_of_step? front]
      exact ih _ (controls_lt_of_step? settle both) shut rfl
    · rw [reduce_of_step? both, reduce_of_step? back]
      exact ih _ (controls_lt_of_step? settle both) (shut_step? shut back) rfl
    · rw [reduce_of_stuck both, reduce_of_stuck front, reduce_of_stuck back]

/-- A cell that no rule looks at stays as it is. -/
theorem reduce_cons {c : Cell} (control : c.isControl = false) (newline : c.isNewline = false) :
    reduce settle (c :: xs) = c :: reduce settle xs := by
  fun_induction reduce settle xs with
  | case1 xs next applied ih =>
    have both : step? settle (c :: xs) = some (c :: next) := by
      rw [step?_cons control newline, applied, Option.map_some]
    rw [reduce_of_step? both, ih]
  | case2 xs stuck =>
    refine reduce_of_stuck ?_
    rw [step?_cons control newline, stuck, Option.map_none]

/-- The pass that reduces each run on its own, with what it holds of the first one. -/
theorem sweep_eq_reduce (settle : Doc → Doc) (run cells : List Cell) :
    Doc.sweep settle run cells = reduce settle (run ++ cells) := by
  induction cells generalizing run with
  | nil => rw [Doc.sweep, List.append_nil]
  | cons c cs ih =>
    rw [Doc.sweep]
    by_cases control : c.isControl
    · rw [if_pos control, ih, List.append_assoc, List.singleton_append]
    · have content : c.isControl = false := Bool.not_eq_true _ ▸ control
      have shut : Shut (c :: cs) := by
        rintro _ ⟨⟩
        exact content
      rw [if_neg control, reduce_append shut]
      by_cases newline : c.isNewline
      · rw [if_pos newline, ih, List.singleton_append]
      · rw [if_neg newline, ih, reduce_cons content (Bool.not_eq_true _ ▸ newline), List.nil_append]

end Reprint.Cell

namespace Reprint.Doc

/-- Reducing each run of control cells on its own, with the line end in front of it,
comes to the same list of cells as reducing the whole list. -/
theorem sweep_toCells (ds : List Doc) :
    sweep resolve [] (toCells resolve ds) = Cell.reduce resolve (toCells resolve ds) :=
  Cell.sweep_eq_reduce resolve [] _

end Reprint.Doc
