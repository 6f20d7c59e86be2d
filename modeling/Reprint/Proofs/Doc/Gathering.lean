import Mathlib.Data.List.Chain
import Reprint.Proofs.Doc.Filling
import Reprint.Proofs.Doc.Runs

/-!
# Gathering control cells

What one step can do is said once, in `Turns`: a few cells give way to others, whatever
stands around them.  A boundary spacing alone is only dropped once no slot is left
(`exists_of_step?`).

The strongest rule makes one control cell of two of a kind that stand side by side, and
no other rule comes to bear before it has gone as far as it can.  What it leaves is what
one pass from the left gathers (`reduce_gathered`).  Where every slot keeps trivia the
other rules have no choice: each slot comes to its trivia and nothing else is left
(`reduce_of_kept`).
-/

namespace Reprint.Cell

variable {settle : Doc → Doc}

/-! ## Kinds of cell -/

/-- A slot that the rules may look at. -/
def isSlot : Cell → Bool
  | .raw d => d.isSlot
  | .settled _ => false

theorem exists_of_isSlot {c : Cell} (slot : c.isSlot) :
    ∃ usual kept required, c = .raw (.slot usual kept required) := by
  obtain d | d := c
  · cases d with
    | slot usual kept required => exact ⟨usual, kept, required, rfl⟩
    | _ => cases slot
  · cases slot

/-- A boundary spacing that the rules may look at. -/
def IsBoundary (c : Cell) : Prop := ∃ d, c = .raw (.after d) ∨ c = .raw (.before d)

/-! ## Two cells side by side -/

/-- Two control cells side by side and the one that the strongest rule makes of them. -/
inductive Merges : Cell → Cell → Cell → Prop
  | befores (a b : Doc) :
      Merges (.raw (.before a)) (.raw (.before b)) (.raw (.before (a.merge b)))
  | afters (a b : Doc) : Merges (.raw (.after a)) (.raw (.after b)) (.raw (.after (a.merge b)))
  | keptFirst (usual usual' : Option Doc) (kept : Doc) (required required' : Bool) :
      Merges (.raw (.slot usual (some kept) required)) (.raw (.slot usual' none required'))
        (.raw (.slot usual (some kept) (required || required')))
  | keptSecond (usual usual' : Option Doc) (kept : Doc) (required required' : Bool) :
      Merges (.raw (.slot usual none required)) (.raw (.slot usual' (some kept) required'))
        (.raw (.slot usual' (some kept) (required || required')))
  | slots (usual usual' : Option Doc) (required required' : Bool) :
      Merges (.raw (.slot usual none required)) (.raw (.slot usual' none required'))
        (.raw (.slot (Doc.merge? usual usual') none (required || required')))

/-- The one control cell that two of a kind side by side become. -/
def meet? (c d : Cell) : Option Cell := (collapse [c, d]).bind List.head?

theorem collapse_cons_cons (c d : Cell) (cs : List Cell) :
    collapse (c :: d :: cs) = (meet? c d).map (· :: cs) := by
  obtain c | c := c
  · obtain d | d := d
    · cases c with
      | slot usual kept required =>
        cases d with
        | slot usual' kept' required' => cases kept <;> cases kept' <;> rfl
        | _ => rfl
      | after a => cases d <;> rfl
      | before a => cases d <;> rfl
      | _ => rfl
    · cases c <;> rfl
  · rfl

theorem collapse_singleton (c : Cell) : collapse [c] = none := by
  obtain d | d := c
  · cases d <;> rfl
  · rfl

theorem merges_of_meet? {c d m : Cell} (met : meet? c d = some m) : Merges c d m := by
  have fits : collapse [c, d] = some [m] := by rw [collapse_cons_cons, met, Option.map_some]
  unfold collapse at fits
  split at fits
  · next same =>
    cases same
    cases fits
    exact .befores _ _
  · next same =>
    cases same
    cases fits
    exact .afters _ _
  · next same =>
    cases same
    split at fits
    · cases fits
    · cases fits
      exact .keptFirst _ _ _ _ _
    · cases fits
      exact .keptSecond _ _ _ _ _
    · cases fits
      exact .slots _ _ _ _
  · cases fits

/-- Cells that stand apart stay apart when the second one meets another cell. -/
theorem meet?_of_meet? {c d e m : Cell} (apart : meet? e c = none) (met : meet? c d = some m) :
    meet? e m = none := by
  obtain e | e := e
  · cases merges_of_meet? met with
    | befores | afters => cases e <;> first | rfl | cases apart
    | keptFirst | keptSecond | slots =>
      -- Of slots only two that both keep trivia stand apart.
      cases e with
      | slot usual kept required => cases kept <;> first | rfl | cases apart
      | _ => rfl
  · rfl

/-- What two cells become that meet is a slot if one of them, and then both, are. -/
theorem isSlot_of_meet? {c d m : Cell} (met : meet? c d = some m) :
    c.isSlot = m.isSlot ∧ d.isSlot = m.isSlot := by
  cases merges_of_meet? met <;> exact ⟨rfl, rfl⟩

theorem meet?_of_isSlot_ne {c d : Cell} (other : c.isSlot ≠ d.isSlot) : meet? c d = none := by
  cases met : meet? c d with
  | none => rfl
  | some m =>
    obtain ⟨left, right⟩ := isSlot_of_meet? met
    exact absurd (left.trans right.symm) other

/-! ## What a step can do -/

/-- The cells that a rule other than the weakest one puts in the place of others. -/
inductive Turns (settle : Doc → Doc) : List Cell → List Cell → Prop
  | merge {c d m : Cell} : Merges c d m → Turns settle [c, d] [m]
  | between (a : Doc) (usual kept : Option Doc) (required : Bool) (b : Doc) :
      Turns settle [.raw (.after a), .raw (.slot usual kept required), .raw (.before b)]
        [.settled (settle (kept.getD (guarded (a.merge b) usual required)))]
  | behind (a : Doc) (usual kept : Option Doc) (required : Bool) :
      Turns settle [.raw (.after a), .raw (.slot usual kept required)]
        (decided settle (beside a usual kept required))
  | ahead (usual kept : Option Doc) (required : Bool) (b : Doc) :
      Turns settle [.raw (.slot usual kept required), .raw (.before b)]
        (decided settle (beside b usual kept required))
  | newline (usual : Doc) (required : Bool) :
      Turns settle [.raw (.text "\n"), .raw (.slot (some usual) none required)] [.settled (.hardline 0)]
  | alone (usual kept : Option Doc) (required : Bool) :
      Turns settle [.raw (.slot usual kept required)] (decided settle (alone usual kept required))

/-- The rules without the weakest one. -/
def slotRules (settle : Doc → Doc) : List Rule :=
  [collapse, afterSlotBefore settle, afterSlot settle, slotBefore settle, newlineSlot, loneSlot settle]

theorem rules_eq (settle : Doc → Doc) : rules settle = slotRules settle ++ [loneBoundary] := rfl

/-- A rule turns the cells at the front of a list into others. -/
theorem exists_of_rule {rule : Rule} (member : rule ∈ slotRules settle) {cells next : List Cell}
    (applied : rule cells = some next) :
    ∃ window out rest, cells = window ++ rest ∧ next = out ++ rest ∧ Turns settle window out := by
  simp only [slotRules, List.mem_cons, List.not_mem_nil, or_false] at member
  obtain rfl | rfl | rfl | rfl | rfl | rfl := member
  · match cells with
    | [] => cases applied
    | [c] =>
      rw [collapse_singleton] at applied
      cases applied
    | c :: d :: cs =>
      rw [collapse_cons_cons] at applied
      obtain ⟨m, met, rfl⟩ := Option.map_eq_some_iff.1 applied
      exact ⟨_, _, _, rfl, rfl, .merge (merges_of_meet? met)⟩
  · unfold afterSlotBefore at applied
    split at applied
    · exact ⟨_, _, _, rfl, (Option.some.inj applied).symm, .between _ _ _ _ _⟩
    · cases applied
  · unfold afterSlot at applied
    split at applied
    · exact ⟨_, _, _, rfl, (Option.some.inj applied).symm, .behind _ _ _ _⟩
    · cases applied
  · unfold slotBefore at applied
    split at applied
    · exact ⟨_, _, _, rfl, (Option.some.inj applied).symm, .ahead _ _ _ _⟩
    · cases applied
  · unfold newlineSlot at applied
    split at applied
    · split_ifs at applied with line
      obtain rfl := beq_iff_eq.1 line
      exact ⟨_, _, _, rfl, (Option.some.inj applied).symm, .newline _ _⟩
    · cases applied
  · unfold loneSlot at applied
    split at applied
    · exact ⟨_, _, _, rfl, (Option.some.inj applied).symm, .alone _ _ _⟩
    · cases applied

theorem exists_of_loneBoundary {cells next : List Cell} (applied : loneBoundary cells = some next) :
    ∃ c, cells = c :: next ∧ c.IsBoundary := by
  unfold loneBoundary at applied
  split at applied
  · next a cs =>
    obtain rfl := Option.some.inj applied
    exact ⟨_, rfl, a, .inl rfl⟩
  · next b cs =>
    obtain rfl := Option.some.inj applied
    exact ⟨_, rfl, b, .inr rfl⟩
  · cases applied

theorem exists_of_leftmost {rule : Rule} {cells next : List Cell}
    (applied : rule.leftmost cells = some next) :
    ∃ front here there, cells = front ++ here ∧ next = front ++ there ∧ rule here = some there := by
  induction cells generalizing next with
  | nil => cases applied
  | cons c cs ih =>
    unfold Rule.leftmost at applied
    split at applied
    · next here =>
      obtain rfl := Option.some.inj applied
      exact ⟨[], _, _, rfl, rfl, here⟩
    · obtain ⟨rest, further, rfl⟩ := Option.map_eq_some_iff.1 applied
      obtain ⟨front, here, there, rfl, rfl, fits⟩ := ih further
      exact ⟨c :: front, here, there, rfl, rfl, fits⟩

theorem isSlot_of_leftmost_loneSlot {cells : List Cell}
    (none : (loneSlot settle).leftmost cells = none) : ∀ c ∈ cells, c.isSlot = false := by
  induction cells with
  | nil => exact List.forall_mem_nil _
  | cons c cs ih =>
    unfold Rule.leftmost at none
    split at none
    · cases none
    · next here =>
      refine List.forall_mem_cons.2 ⟨?_, ih (Option.map_eq_none_iff.1 none)⟩
      refine Bool.eq_false_iff.2 fun slot => ?_
      obtain ⟨usual, kept, required, rfl⟩ := exists_of_isSlot slot
      cases here

/-- A step turns a few cells into others and leaves all around them as it is.  Once no
slot is left it may take a boundary spacing away. -/
theorem exists_of_step? {cells next : List Cell} (applied : step? settle cells = some next) :
    (∃ front window out back, cells = front ++ window ++ back ∧ next = front ++ out ++ back ∧
        Turns settle window out) ∨
      (∀ c ∈ cells, c.isSlot = false) ∧
        ∃ front c back, cells = front ++ c :: back ∧ next = front ++ back ∧ c.IsBoundary := by
  rw [step?, rules_eq, List.findSome?_append, Option.or_eq_some_iff] at applied
  obtain applied | ⟨none, applied⟩ := applied
  · obtain ⟨rule, member, applied⟩ := List.exists_of_findSome?_eq_some applied
    obtain ⟨front, here, there, rfl, rfl, fits⟩ := exists_of_leftmost applied
    obtain ⟨window, out, back, rfl, rfl, turns⟩ := exists_of_rule member fits
    exact .inl ⟨front, window, out, back, by simp, by simp, turns⟩
  · obtain ⟨rule, member, applied⟩ := List.exists_of_findSome?_eq_some applied
    obtain rfl := List.mem_singleton.1 member
    obtain ⟨front, here, back, rfl, rfl, fits⟩ := exists_of_leftmost applied
    obtain ⟨c, rfl, boundary⟩ := exists_of_loneBoundary fits
    have slots := List.findSome?_eq_none_iff.1 none (loneSlot settle) (by simp [slotRules])
    exact .inr ⟨isSlot_of_leftmost_loneSlot slots, front, c, back, rfl, rfl, boundary⟩

/-! ## Gathering -/

/-- The cells from `c` on, with cells that meet made one from the left. -/
def gather (c : Cell) : List Cell → List Cell
  | [] => [c]
  | d :: cs =>
    match meet? c d with
    | some m => gather m cs
    | none => c :: gather d cs

/-- All cells, with cells that meet made one from the left. -/
def gathered : List Cell → List Cell
  | [] => []
  | c :: cs => gather c cs

theorem gather_of_meet? {c d m : Cell} (cs : List Cell) (met : meet? c d = some m) :
    gather c (d :: cs) = gather m cs := by
  rw [gather, met]

theorem gather_of_apart {c d : Cell} (cs : List Cell) (apart : meet? c d = none) :
    gather c (d :: cs) = c :: gather d cs := by
  rw [gather, apart]

/-- Where no cells meet, the strongest rule looks further. -/
theorem leftmost_collapse_append {front : List Cell} {c : Cell} (cs : List Cell)
    (apart : (front ++ [c]).IsChain fun c d => meet? c d = none) :
    collapse.leftmost (front ++ c :: cs) = (collapse.leftmost (c :: cs)).map (front ++ ·) := by
  induction front with
  | nil => simp
  | cons e front ih =>
    have none : collapse (e :: (front ++ c :: cs)) = none := by
      cases front with
      | nil =>
        rw [List.nil_append, collapse_cons_cons, (List.isChain_cons_cons.1 apart).1, Option.map_none]
      | cons e' front =>
        rw [List.cons_append, collapse_cons_cons, (List.isChain_cons_cons.1 apart).1, Option.map_none]
    rw [List.cons_append, Rule.leftmost, none, ih (List.IsChain.tail apart), Option.map_map]
    rfl

/-- Two cells that meet become one before anything else happens. -/
theorem reduce_of_meet? {front cs : List Cell} {c d m : Cell} (met : meet? c d = some m)
    (apart : (front ++ [c]).IsChain fun c d => meet? c d = none) :
    reduce settle (front ++ c :: d :: cs) = reduce settle (front ++ m :: cs) := by
  have here : collapse (c :: d :: cs) = some (m :: cs) := by rw [collapse_cons_cons, met, Option.map_some]
  refine reduce_of_step? ?_
  rw [step?, rules, List.findSome?_cons, leftmost_collapse_append _ apart, Rule.leftmost, here]
  rfl

theorem reduce_gather {front : List Cell} {c : Cell} (cs : List Cell)
    (apart : (front ++ [c]).IsChain fun c d => meet? c d = none) :
    reduce settle (front ++ c :: cs) = reduce settle (front ++ gather c cs) := by
  induction cs generalizing front c with
  | nil => rfl
  | cons d cs ih =>
    obtain ⟨first, -, last⟩ := List.isChain_append.1 apart
    cases met : meet? c d with
    | some m =>
      rw [reduce_of_meet? met apart, gather_of_meet? cs met]
      refine ih (List.isChain_append.2 ⟨first, .singleton m, ?_⟩)
      rintro e member _ ⟨⟩
      exact meet?_of_meet? (last e member c rfl) met
    | none =>
      rw [gather_of_apart cs met]
      have further : (front ++ [c] ++ [d]).IsChain fun c d => meet? c d = none := by
        refine List.isChain_append.2 ⟨apart, .singleton d, ?_⟩
        rintro e member _ ⟨⟩
        rw [List.getLast?_concat] at member
        obtain rfl := Option.some.inj member
        exact met
      calc reduce settle (front ++ c :: d :: cs)
        _ = reduce settle (front ++ [c] ++ d :: cs) := by rw [List.append_assoc, List.singleton_append]
        _ = reduce settle (front ++ [c] ++ gather d cs) := ih further
        _ = reduce settle (front ++ c :: gather d cs) := by rw [List.append_assoc, List.singleton_append]

/-- A list of cells comes to what it comes to once it is gathered. -/
theorem reduce_gathered (cells : List Cell) : reduce settle cells = reduce settle (gathered cells) := by
  cases cells with
  | nil => rfl
  | cons c cs => exact @reduce_gather settle [] c cs (.singleton c)

theorem gather_append {c : Cell} {cs : List Cell} {y : Cell} {ys : List Cell}
    (apart : ∀ d ∈ (gather c cs).getLast?, meet? d y = none) :
    gather c (cs ++ y :: ys) = gather c cs ++ gather y ys := by
  induction cs generalizing c with
  | nil => exact gather_of_apart ys (apart c rfl)
  | cons d cs ih =>
    rw [List.cons_append]
    cases met : meet? c d with
    | some m =>
      rw [gather_of_meet? cs met] at apart ⊢
      rw [gather_of_meet? _ met, ih apart]
    | none =>
      rw [gather_of_apart cs met] at apart ⊢
      rw [gather_of_apart _ met]
      refine congrArg (c :: ·) (ih ?_)
      intro e member
      refine apart e ?_
      rw [List.getLast?_cons, member]
      rfl

/-- Two parts that stand apart are gathered one by one. -/
theorem gathered_append {xs ys : List Cell}
    (apart : ∀ c ∈ (gathered xs).getLast?, ∀ d ∈ ys.head?, meet? c d = none) :
    gathered (xs ++ ys) = gathered xs ++ gathered ys := by
  cases xs with
  | nil => rfl
  | cons x xs =>
    cases ys with
    | nil => simp [gathered]
    | cons y ys => exact gather_append fun c member => apart c member y rfl

theorem gathered_cons {c : Cell} (content : c.isControl = false) (cs : List Cell) :
    gathered (c :: cs) = c :: gathered cs := by
  refine @gathered_append [c] cs ?_
  rintro _ ⟨⟩ d -
  show meet? c d = none
  cases met : meet? c d with
  | none => rfl
  | some m => cases merges_of_meet? met <;> cases content

/-- Gathering leaves a slot at the end if there was one. -/
theorem isSlot_getLast?_gather (c : Cell) (cs : List Cell) :
    (gather c cs).getLast?.map isSlot = (c :: cs).getLast?.map isSlot := by
  induction cs generalizing c with
  | nil => rfl
  | cons d cs ih =>
    cases met : meet? c d with
    | some m =>
      rw [gather_of_meet? cs met, ih, List.getLast?_cons_cons]
      cases cs with
      | nil => exact congrArg some (isSlot_of_meet? met).2.symm
      | cons e cs => rw [List.getLast?_cons_cons, List.getLast?_cons_cons]
    | none =>
      have own := ih d
      rw [gather_of_apart cs met, List.getLast?_cons_cons, ← own]
      cases behind : gather d cs with
      | nil =>
        rw [behind, List.getLast?_cons] at own
        cases own
      | cons e es => rw [List.getLast?_cons_cons]

/-- Slots and other cells beside them are gathered on their own. -/
theorem gathered_append_of_isSlot {xs ys : List Cell}
    (other : ∀ c ∈ xs.getLast?, ∀ d ∈ ys.head?, c.isSlot ≠ d.isSlot) :
    gathered (xs ++ ys) = gathered xs ++ gathered ys := by
  refine gathered_append fun c last d first => meet?_of_isSlot_ne ?_
  cases xs with
  | nil => cases last
  | cons x xs =>
    have same := isSlot_getLast?_gather x xs
    rw [show (gather x xs).getLast? = some c from last] at same
    obtain ⟨c', last', own⟩ := Option.map_eq_some_iff.1 same.symm
    exact own ▸ other c' last' d first

/-- Cells that are gathered stand apart. -/
theorem isChain_gather (c : Cell) (cs : List Cell) :
    (gather c cs).IsChain fun c d => meet? c d = none := by
  have head : ∀ {e : Cell} (c : Cell) (cs : List Cell), meet? e c = none →
      ∀ d ∈ (gather c cs).head?, meet? e d = none := by
    intro e c cs apart
    induction cs generalizing c with
    | nil =>
      rintro d ⟨⟩
      exact apart
    | cons d cs ih =>
      cases met : meet? c d with
      | some m =>
        rw [gather_of_meet? cs met]
        exact ih m (meet?_of_meet? apart met)
      | none =>
        rw [gather_of_apart cs met]
        rintro d ⟨⟩
        exact apart
  induction cs generalizing c with
  | nil => exact .singleton c
  | cons d cs ih =>
    cases met : meet? c d with
    | some m =>
      rw [gather_of_meet? cs met]
      exact ih m
    | none =>
      rw [gather_of_apart cs met]
      exact List.isChain_cons.2 ⟨head d cs met, ih d⟩

/-- What holds of two cells that meet and so of the one that they become holds of
all cells that are gathered. -/
theorem forall_mem_gather {P : Cell → Prop}
    (keeps : ∀ c d m, P c → P d → meet? c d = some m → P m) {c : Cell} {cs : List Cell} (first : P c)
    (others : ∀ d ∈ cs, P d) : ∀ d ∈ gather c cs, P d := by
  induction cs generalizing c with
  | nil => exact List.forall_mem_singleton.2 first
  | cons d cs ih =>
    obtain ⟨second, others⟩ := List.forall_mem_cons.1 others
    cases met : meet? c d with
    | some m =>
      rw [gather_of_meet? cs met]
      exact ih (keeps c d m first second met) others
    | none =>
      rw [gather_of_apart cs met]
      exact List.forall_mem_cons.2 ⟨first, ih second others⟩

/-! ## Kept trivia -/

/-- A cell that is no line end, and if it is a slot keeps trivia. -/
def IsKept : Cell → Prop
  | .raw (.slot _ none _) => False
  | c => c.isNewline = false

/-- What a cell comes to where every slot keeps trivia. -/
def outcome (settle : Doc → Doc) : Cell → List Cell
  | .raw (.after _) => []
  | .raw (.before _) => []
  | .raw (.slot _ kept _) => decided settle kept
  | c => [c]

/-- Cells that meet keep the trivia of both. -/
theorem outcome_of_meet? {c d m : Cell} (met : meet? c d = some m) :
    outcome settle m = outcome settle c ++ outcome settle d := by
  cases merges_of_meet? met <;> rfl

theorem outcome_gather (c : Cell) (cs : List Cell) :
    (gather c cs).flatMap (outcome settle) = (c :: cs).flatMap (outcome settle) := by
  induction cs generalizing c with
  | nil => rfl
  | cons d cs ih =>
    cases met : meet? c d with
    | some m =>
      rw [gather_of_meet? cs met, ih]
      simp only [List.flatMap_cons, outcome_of_meet? met, List.append_assoc]
    | none => rw [gather_of_apart cs met, List.flatMap_cons, ih, ← List.flatMap_cons]

theorem outcome_gathered (cells : List Cell) :
    (gathered cells).flatMap (outcome settle) = cells.flatMap (outcome settle) := by
  cases cells with
  | nil => rfl
  | cons c cs => exact outcome_gather c cs

/-- Where every slot keeps trivia, no turn changes what the cells come to. -/
theorem Turns.outcome {window out : List Cell} (turns : Turns settle window out)
    (kept : ∀ c ∈ window, c.IsKept) :
    (∀ c ∈ out, c.IsKept) ∧ out.flatMap (outcome settle) = window.flatMap (Cell.outcome settle) := by
  cases turns with
  | merge merges =>
    cases merges with
    | befores | afters => exact ⟨List.forall_mem_singleton.2 rfl, rfl⟩
    | keptFirst => cases kept _ (List.mem_cons_of_mem _ List.mem_cons_self)
    | keptSecond | slots => cases kept _ List.mem_cons_self
  | newline => cases kept _ List.mem_cons_self
  | between a usual trivia | behind a usual trivia =>
    cases trivia with
    | none => cases kept _ (List.mem_cons_of_mem _ List.mem_cons_self)
    | some d => exact ⟨List.forall_mem_singleton.2 rfl, rfl⟩
  | ahead usual trivia | alone usual trivia =>
    cases trivia with
    | none => cases kept _ List.mem_cons_self
    | some d => exact ⟨List.forall_mem_singleton.2 rfl, rfl⟩

/-- Where every slot keeps trivia, no step changes what the cells come to. -/
theorem step?_of_kept {cells next : List Cell} (kept : ∀ c ∈ cells, c.IsKept)
    (applied : step? settle cells = some next) :
    (∀ c ∈ next, c.IsKept) ∧ next.flatMap (outcome settle) = cells.flatMap (outcome settle) := by
  obtain ⟨front, window, out, back, rfl, rfl, turns⟩ | ⟨-, front, c, back, rfl, rfl, boundary⟩ :=
    exists_of_step? applied
  · simp only [List.forall_mem_append] at kept
    obtain ⟨here, same⟩ := turns.outcome kept.1.2
    refine ⟨?_, ?_⟩
    · simpa only [List.forall_mem_append] using ⟨⟨kept.1.1, here⟩, kept.2⟩
    · simp only [List.flatMap_append, same]
  · rw [List.forall_mem_append, List.forall_mem_cons] at kept
    refine ⟨List.forall_mem_append.2 ⟨kept.1, kept.2.2⟩, ?_⟩
    obtain ⟨d, rfl | rfl⟩ := boundary <;> simp [outcome]

/-- Where every slot keeps trivia, each slot comes to its trivia and the boundary
spacing to nothing. -/
theorem reduce_of_kept {cells : List Cell} (kept : ∀ c ∈ cells, c.IsKept) :
    reduce settle cells = cells.flatMap (outcome settle) := by
  fun_induction reduce settle cells with
  | case1 cells next applied ih =>
    obtain ⟨kept', same⟩ := step?_of_kept kept applied
    rw [ih kept', same]
  | case2 cells stuck =>
    have contents := isControl_of_step?_eq_none stuck
    clear stuck
    induction cells with
    | nil => rfl
    | cons c cs ih =>
      obtain ⟨first, others⟩ := List.forall_mem_cons.1 contents
      have own : outcome settle c = [c] := by
        unfold outcome
        split <;> first | rfl | cases first
      rw [List.flatMap_cons, own, ← ih (List.forall_mem_cons.1 kept).2 others]
      rfl

/-- No rule looks at a cell that is no control cell in front of slots that keep trivia: even
a line end only gives way to a slot without. -/
theorem passes_of_kept {c : Cell} {cells : List Cell} (content : c.isControl = false)
    (kept : ∀ d ∈ cells, d.IsKept) : ∀ rule ∈ rules settle, rule (c :: cells) = none := by
  intro rule member
  by_contra some
  obtain ⟨next, applied⟩ := Option.ne_none_iff_exists'.1 some
  rw [rules_eq, List.mem_append, List.mem_singleton] at member
  obtain member | rfl := member
  · obtain ⟨window, out, rest, same, -, turns⟩ := exists_of_rule member applied
    cases turns with
    | newline usual required =>
      obtain ⟨-, rfl⟩ := List.cons.inj same
      exact kept _ List.mem_cons_self
    | merge merges =>
      cases merges <;>
        obtain ⟨rfl, -⟩ := List.cons.inj same <;> cases content
    | _ =>
      obtain ⟨rfl, -⟩ := List.cons.inj same
      cases content
  · obtain ⟨d, same, e, boundary⟩ := exists_of_loneBoundary applied
    obtain ⟨rfl, -⟩ := List.cons.inj same
    obtain rfl | rfl := boundary <;> cases content

/-- A cell that is no control cell stays in front of slots that keep trivia. -/
theorem reduce_cons_of_kept {c : Cell} {cells : List Cell} (content : c.isControl = false)
    (kept : ∀ d ∈ cells, d.IsKept) : reduce settle (c :: cells) = c :: reduce settle cells := by
  fun_induction reduce settle cells with
  | case1 cells next applied ih =>
    have both : step? settle (c :: cells) = some (c :: next) := by
      rw [step?_cons_of_passed (passes_of_kept content kept), applied, Option.map_some]
    rw [reduce_of_step? both, ih (step?_of_kept kept applied).1]
  | case2 cells stuck =>
    refine reduce_of_stuck ?_
    rw [step?_cons_of_passed (passes_of_kept content kept), stuck, Option.map_none]

end Reprint.Cell
