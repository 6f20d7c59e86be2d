import Reprint.Proofs.Doc.Gap
import Reprint.Proofs.Doc.Skeleton

/-!
# Where something has to stand

A slot that is required comes to something that prints, whatever control nodes stand
around it: spacing that is empty gives way to the usual spacing, and that to a space.
Three things take precedence.  Kept trivia is all that counts in a run of slots side by
side, even if it prints nothing.  Spacing that is not empty stands, even if it prints
nothing.  And a line end written as text takes the slot behind it with it, when it becomes
a hard line end (`leaves_resolve_required`).
-/

namespace Reprint

namespace Doc

/-- The document has a leaf once it is resolved. -/
def Shows (d : Doc) : Prop := (resolve d).leaves ≠ []

/-- The spacing that a control node carries. -/
def spacings : Doc → List Doc
  | .after d => [d]
  | .before d => [d]
  | .slot usual _ _ => usual.toList
  | _ => []

/-- What a control node comes to is governed by its spacing, and a space by default. -/
theorem meets_of_spacings {spacing : Doc → Prop} (space : spacing .space) {d : Doc}
    (own : ∀ p ∈ d.spacings, spacing p) : d.Meets spacing fun _ => True := by
  cases d with
  | after p => exact own p List.mem_cons_self
  | before p => exact own p List.mem_cons_self
  | slot usual kept required =>
    exact ⟨fun p member => own p (Option.mem_toList.2 member), fun _ _ => trivial, fun _ _ => space⟩
  | _ => trivial

theorem shows_space : Shows .space := by
  have space : resolve .space = .space := resolveWith_leaf id .space
  rw [Shows, space]
  exact List.cons_ne_nil _ _

end Doc

namespace Cell

/-! ## Slots that stand apart -/

/-- Slots side by side both keep trivia, so that they do not become one. -/
def Apart (cells : List Cell) : Prop :=
  cells.IsChain fun c d => c.isSlot → d.isSlot → meet? c d = none

namespace Apart

variable {front window back : List Cell} {c : Cell}

theorem replace (apart : Apart (front ++ window ++ back)) (other : c.isSlot = false) :
    Apart (front ++ [c] ++ back) := by
  obtain ⟨first, last, -⟩ := List.isChain_append.1 apart
  refine List.isChain_append.2 ⟨List.isChain_append.2 ⟨(List.isChain_append.1 first).1, .singleton c, ?_⟩,
    last, ?_⟩
  · rintro e - _ ⟨⟩ - slot
    simp [other] at slot
  · intro e member d _ slot
    rw [List.getLast?_concat] at member
    obtain rfl := Option.some.inj member
    simp [other] at slot

/-- No slot stands behind one without trivia, so nothing meets when that is taken away. -/
theorem drop_behind (window : List Cell) {usual : Option Doc} {required : Bool}
    (apart : Apart (front ++ (window ++ [.raw (.slot usual none required)]) ++ back)) :
    Apart (front ++ back) := by
  obtain ⟨first, last, between⟩ := List.isChain_append.1 apart
  refine List.isChain_append.2 ⟨(List.isChain_append.1 first).1, last, ?_⟩
  intro e _ d member _ slot
  have none := between (.raw (.slot usual none required)) (by simp) d member rfl slot
  obtain ⟨usual', kept, required', rfl⟩ := exists_of_isSlot slot
  cases kept <;> cases none

theorem drop_ahead (window : List Cell) {usual : Option Doc} {required : Bool}
    (apart : Apart (front ++ .raw (.slot usual none required) :: window ++ back)) :
    Apart (front ++ back) := by
  obtain ⟨first, last, -⟩ := List.isChain_append.1 apart
  obtain ⟨front', -, between⟩ := List.isChain_append.1 first
  refine List.isChain_append.2 ⟨front', last, ?_⟩
  intro e member d _ slot
  have none := between e member (.raw (.slot usual none required)) rfl slot rfl
  obtain ⟨usual', kept, required', rfl⟩ := exists_of_isSlot slot
  cases kept <;> cases none

theorem decided {settle : Doc → Doc} {result : Option Doc} (apart : Apart (front ++ window ++ back))
    (nothing : result = none → Apart (front ++ back)) :
    Apart (front ++ Cell.decided settle result ++ back) := by
  cases result with
  | some d => exact apart.replace rfl
  | none =>
    rw [Cell.decided, Option.map_none, Option.toList_none, List.append_nil]
    exact nothing rfl

end Apart

variable {settle : Doc → Doc}

theorem meet?_of_merges {c d m : Cell} (merges : Merges c d m) : meet? c d = some m := by
  cases merges <;> rfl

/-- No turn brings slots together. -/
theorem Turns.apart {front window out back : List Cell} (turns : Turns settle window out)
    (apart : Apart (front ++ window ++ back)) : Apart (front ++ out ++ back) := by
  cases turns with
  | @merge c d m merges =>
    have met := meet?_of_merges merges
    refine apart.replace (Bool.eq_false_iff.2 fun slot => ?_)
    obtain ⟨left, right⟩ := isSlot_of_meet? met
    obtain ⟨first, -, -⟩ := List.isChain_append.1 apart
    obtain ⟨-, two, -⟩ := List.isChain_append.1 first
    have none := (List.isChain_cons_cons.1 two).1 (left ▸ slot) (right ▸ slot)
    rw [met] at none
    cases none
  | between | newline => exact apart.replace rfl
  | behind a usual kept required =>
    refine apart.decided fun nothing => ?_
    cases kept with
    | some d => cases nothing
    | none => exact Apart.drop_behind [.raw (.after a)] apart
  | ahead usual kept required b =>
    refine apart.decided fun nothing => ?_
    cases kept with
    | some d => cases nothing
    | none => exact Apart.drop_ahead [.raw (.before b)] apart
  | alone usual kept required =>
    refine apart.decided fun nothing => ?_
    cases kept with
    | some d => cases nothing
    | none => exact Apart.drop_ahead [] apart

/-! ## What a cell promises -/

variable {spacing : Doc → Prop}

/-- Of a cell it is certain that it leaves something that prints: it is finished, it is a
slot whose trivia prints something, or it is a required one without trivia, where all
spacing is empty or prints something. -/
def Promises (spacing : Doc → Prop) : Cell → Prop
  | .raw (.slot _ none required) => required ∧ ∀ d, spacing d → d.isEmpty ∨ d.Shows
  | .raw (.slot _ (some kept) _) => kept.Shows
  | .settled d => d.leaves ≠ []
  | _ => False

/-- What a required slot comes to prints something. -/
theorem shows_guarded {result : Doc} {usual : Option Doc}
    (prints : ∀ d, spacing d → d.isEmpty ∨ d.Shows) (own : spacing result)
    (others : ∀ d ∈ usual, spacing d) : (guarded result usual true).Shows := by
  unfold guarded
  rw [Bool.true_and]
  split_ifs with empty
  · split
    · next d =>
      split_ifs with empty'
      · exact Doc.shows_space
      · exact (prints d (others d rfl)).resolve_left empty'
    · exact Doc.shows_space
  · exact (prints result own).resolve_left empty

/-- A turn of cells that stand apart keeps what they promise. -/
theorem Turns.promises {window out : List Cell} (turns : Turns Doc.resolve window out)
    (apart : Apart window) (meets : ∀ c ∈ window, c.Meets spacing fun _ => True)
    (promise : ∃ c ∈ window, c.Promises spacing) : ∃ c ∈ out, c.Promises spacing := by
  cases turns with
  | merge merges =>
    have none := (List.isChain_cons_cons.1 apart).1
    rw [meet?_of_merges merges] at none
    cases merges with
    | befores | afters => simp [Promises] at promise
    | keptFirst | keptSecond | slots => cases none rfl rfl
  | between a usual kept required b =>
    have own : (raw (.slot usual kept required)).Promises spacing := by simpa [Promises] using promise
    simp only [List.forall_mem_cons] at meets
    refine ⟨_, List.mem_cons_self, ?_⟩
    cases kept with
    | some d => exact own
    | none =>
      obtain ⟨rfl, prints⟩ := own
      exact shows_guarded prints (Doc.merge_induction (P := spacing) meets.1 meets.2.2.1) meets.2.1.1
  | behind a usual kept required =>
    have own : (raw (.slot usual kept required)).Promises spacing := by simpa [Promises] using promise
    simp only [List.forall_mem_cons] at meets
    cases kept with
    | some d => exact ⟨_, List.mem_cons_self, own⟩
    | none =>
      obtain ⟨rfl, prints⟩ := own
      have chosen : beside a usual none true = some (guarded a usual true) := by simp [beside]
      rw [chosen]
      exact ⟨_, List.mem_cons_self, shows_guarded prints meets.1 meets.2.1.1⟩
  | ahead usual kept required b =>
    have own : (raw (.slot usual kept required)).Promises spacing := by simpa [Promises] using promise
    simp only [List.forall_mem_cons] at meets
    cases kept with
    | some d => exact ⟨_, List.mem_cons_self, own⟩
    | none =>
      obtain ⟨rfl, prints⟩ := own
      have chosen : beside b usual none true = some (guarded b usual true) := by simp [beside]
      rw [chosen]
      exact ⟨_, List.mem_cons_self, shows_guarded prints meets.2.1 meets.1.1⟩
  | newline usual required => exact ⟨_, List.mem_cons_self, List.cons_ne_nil _ _⟩
  | alone usual kept required =>
    have own : (raw (.slot usual kept required)).Promises spacing := by simpa [Promises] using promise
    simp only [List.forall_mem_cons] at meets
    cases kept with
    | some d => exact ⟨_, List.mem_cons_self, own⟩
    | none =>
      obtain ⟨rfl, prints⟩ := own
      cases usual with
      | some d => exact ⟨_, List.mem_cons_self, shows_guarded prints (meets.1.1 d rfl) meets.1.1⟩
      | none => exact ⟨_, List.mem_cons_self, Doc.shows_space⟩

/-! ## Cells behind a text -/

/-- Of the turns only that of a line end has a cell in front that is no control cell. -/
theorem Turns.head {c : Cell} {window out : List Cell} (turns : Turns settle (c :: window) out)
    (content : c.isControl = false) : c = .raw (.text "\n") ∧ out = [.settled (.hardline 0)] := by
  cases turns with
  | newline => exact ⟨rfl, rfl⟩
  | merge merges => cases merges <;> cases content
  | _ => cases content

/-- A step behind a cell that is no control cell leaves that as it is.  Only a line end may
become a hard one. -/
theorem exists_of_step?_cons {c : Cell} {cs next : List Cell} (content : c.isControl = false)
    (applied : step? settle (c :: cs) = some next) :
    (c = .raw (.text "\n") ∧ ∃ back, next = .settled (.hardline 0) :: back) ∨
      ∃ cs', next = c :: cs' ∧
        ((∃ front window out back, cs = front ++ window ++ back ∧ cs' = front ++ out ++ back ∧
            Turns settle window out) ∨
          (∀ d ∈ cs, d.isSlot = false) ∧
            ∃ front d back, cs = front ++ d :: back ∧ cs' = front ++ back ∧ d.IsBoundary) := by
  obtain ⟨front, window, out, back, same, rfl, turns⟩ | ⟨slots, front, d, back, same, rfl, boundary⟩ :=
    exists_of_step? applied
  · cases front with
    | nil =>
      cases window with
      | nil => cases turns
      | cons d window =>
        obtain ⟨rfl, rfl⟩ := List.cons.inj same
        obtain ⟨line, rfl⟩ := turns.head content
        exact .inl ⟨line, back, rfl⟩
    | cons d front =>
      obtain ⟨rfl, rfl⟩ := List.cons.inj same
      exact .inr ⟨_, rfl, .inl ⟨front, window, out, back, rfl, rfl, turns⟩⟩
  · cases front with
    | nil =>
      obtain ⟨rfl, rfl⟩ := List.cons.inj same
      obtain ⟨e, rfl | rfl⟩ := boundary <;> cases content
    | cons e front =>
      obtain ⟨rfl, rfl⟩ := List.cons.inj same
      exact .inr ⟨_, rfl, .inr ⟨(List.forall_mem_cons.1 slots).2, front, d, back, rfl, rfl, boundary⟩⟩

/-- The cells behind a text stand apart, and one of them promises something.  Or the text
was a line end, and that became a hard one. -/
inductive Opens (spacing : Doc → Prop) (x : String) : List Cell → Prop
  | text {cs : List Cell} : Apart cs → (∀ c ∈ cs, c.Meets spacing fun _ => True) →
      (∃ c ∈ cs, c.Promises spacing) → Opens spacing x (.raw (.text x) :: cs)
  | newline (cs : List Cell) : x = "\n" → Opens spacing x (.settled (.hardline 0) :: cs)

theorem Opens.step {x : String} {cells next : List Cell} (opens : Opens spacing x cells)
    (applied : step? Doc.resolve cells = some next) : Opens spacing x next := by
  cases opens with
  | newline cs line =>
    obtain ⟨same, -⟩ | ⟨cs', rfl, -⟩ := exists_of_step?_cons rfl applied
    · cases same
    · exact .newline cs' line
  | @text cs apart meets promise =>
    have sound : Rule.Sound Doc.resolve spacing (fun _ => True) (step? Doc.resolve) := step?_sound
    obtain ⟨same, back, rfl⟩ | ⟨cs', rfl, turned⟩ := exists_of_step?_cons rfl applied
    · cases same
      exact .newline back rfl
    have meets' := (List.forall_mem_cons.1
      (sound _ _ applied (List.forall_mem_cons.2 ⟨trivial, meets⟩)).1).2
    obtain ⟨front, window, out, back, rfl, rfl, turns⟩ |
      ⟨slots, front, d, back, rfl, rfl, boundary⟩ := turned
    · refine .text (turns.apart apart) meets' ?_
      have own : Apart window := (List.isChain_append.1 (List.isChain_append.1 apart).1).2.1
      have inside : ∀ c ∈ window, c.Meets spacing fun _ => True := by
        intro c member
        exact meets c (by simp [member])
      obtain ⟨c, member, promised⟩ := promise
      simp only [List.mem_append] at member ⊢
      obtain (ahead | here) | behind := member
      · exact ⟨c, .inl (.inl ahead), promised⟩
      · obtain ⟨d, there, promised⟩ := turns.promises own inside ⟨c, here, promised⟩
        exact ⟨d, .inl (.inr there), promised⟩
      · exact ⟨c, .inr behind, promised⟩
    · obtain ⟨first, behind, -⟩ := List.isChain_append.1 apart
      have together : Apart (front ++ back) := by
        refine List.isChain_append.2 ⟨first, behind.tail, ?_⟩
        intro e member _ _ slot
        rw [slots e (List.mem_append_left _ (List.mem_of_mem_getLast? member))] at slot
        cases slot
      refine .text together meets' ?_
      obtain ⟨c, member, promised⟩ := promise
      obtain member | rfl | member := by simpa only [List.mem_append, List.mem_cons] using member
      · exact ⟨c, List.mem_append_left _ member, promised⟩
      · obtain ⟨e, rfl | rfl⟩ := boundary <;> cases promised
      · exact ⟨c, List.mem_append_right _ member, promised⟩

theorem Opens.reduce {x : String} {cells : List Cell} (opens : Opens spacing x cells) :
    Opens spacing x (reduce Doc.resolve cells) := by
  fun_induction Cell.reduce Doc.resolve cells with
  | case1 cells next applied ih => exact ih (opens.step applied)
  | case2 cells stuck => exact opens

/-- What meets is governed by what governs the two cells. -/
theorem meets_of_meet? {trivia : Doc → Prop} {c d m : Cell} (left : c.Meets spacing trivia)
    (right : d.Meets spacing trivia) (met : meet? c d = some m) : m.Meets spacing trivia := by
  have applied : collapse [c, d] = some [m] := by rw [collapse_cons_cons, met, Option.map_some]
  have sound : collapse.Sound id spacing trivia := collapse_sound id
  have both : ∀ e ∈ [c, d], e.Meets spacing trivia :=
    List.forall_mem_cons.2 ⟨left, List.forall_mem_singleton.2 right⟩
  exact List.forall_mem_singleton.1 (sound _ _ applied both).1

theorem meets_gathered {trivia : Doc → Prop} {cells : List Cell}
    (meets : ∀ c ∈ cells, c.Meets spacing trivia) : ∀ c ∈ gathered cells, c.Meets spacing trivia := by
  cases cells with
  | nil => exact meets
  | cons c cs =>
    obtain ⟨first, others⟩ := List.forall_mem_cons.1 meets
    exact forall_mem_gather (fun _ _ _ => meets_of_meet?) first others

theorem apart_gathered (cells : List Cell) : Apart (gathered cells) := by
  cases cells with
  | nil => exact .nil
  | cons c cs => exact (isChain_gather c cs).imp fun _ _ none _ _ => none

/-- The reduction leaves no control cell. -/
theorem isControl_reduce (cells : List Cell) :
    ∀ c ∈ reduce settle cells, c.isControl = false := by
  fun_induction reduce settle cells with
  | case1 cells next applied ih => exact ih
  | case2 cells stuck => exact isControl_of_step?_eq_none stuck

theorem promises_of_outcome {c : Cell} {d : Doc} (own : .settled d ∈ outcome Doc.resolve c)
    (prints : d.leaves ≠ []) : c.Promises spacing := by
  unfold outcome at own
  split at own
  · cases own
  · cases own
  · next kept _ =>
    cases kept with
    | none => cases own
    | some t =>
      obtain rfl := settled.inj (List.mem_singleton.1 own)
      exact prints
  · obtain rfl := List.mem_singleton.1 own
    exact prints

/-- A run of slots promises something if it is required and keeps no trivia, or keeps trivia
that prints something. -/
theorem promises_gathered {run : List Doc.Slot}
    (promise : (∃ d ∈ run.filterMap Doc.Slot.trivia, d.Shows) ∨
      run.filterMap Doc.Slot.trivia = [] ∧ (∃ s ∈ run, s.required) ∧
        ∀ d, spacing d → d.isEmpty ∨ d.Shows) :
    ∃ c ∈ gathered (run.map fun s => .raw s.doc), c.Promises spacing := by
  obtain ⟨d, member, prints⟩ | ⟨none, ⟨s, member, required⟩, prints⟩ := promise
  · obtain ⟨s, inside, trivia⟩ := List.mem_filterMap.1 member
    have kept : .settled d.resolve
        ∈ (run.map fun s => Cell.raw s.doc).flatMap (outcome Doc.resolve) := by
      refine List.mem_flatMap.2 ⟨_, List.mem_map_of_mem inside, ?_⟩
      rw [Doc.Slot.doc, trivia]
      exact List.mem_cons_self
    rw [← outcome_gathered] at kept
    obtain ⟨c, there, own⟩ := List.mem_flatMap.1 kept
    exact ⟨c, there, promises_of_outcome own prints⟩
  · have one := gathered_spacing (List.ne_nil_of_mem member) none
    rw [one]
    exact ⟨_, List.mem_cons_self, List.any_eq_true.2 ⟨s, member, required⟩, prints⟩

/-- Behind a text, control nodes with a run of slots that promises something leave something
that prints. -/
theorem opens_reduce (x : String) {front back : List Doc} {run : List Doc.Slot}
    (opens : ∀ d ∈ front.getLast?, d.isSlot = false) (closes : ∀ d ∈ back.head?, d.isSlot = false)
    (meets : ∀ d ∈ front ++ run.map Doc.Slot.doc ++ back, d.Meets spacing fun _ => True)
    (promise : ∃ c ∈ gathered (run.map fun s => .raw s.doc), c.Promises spacing) :
    Opens spacing x (reduce Doc.resolve
      (.raw (.text x) :: (front ++ run.map Doc.Slot.doc ++ back).map Cell.raw)) := by
  have whole : gathered ((front ++ run.map Doc.Slot.doc ++ back).map Cell.raw)
      = gathered (front.map Cell.raw) ++ gathered (run.map fun s => .raw s.doc)
        ++ gathered (back.map Cell.raw) := by
    have nonempty : run ≠ [] := by
      rintro rfl
      obtain ⟨c, member, -⟩ := promise
      cases member
    rw [List.map_append, List.map_append, List.map_map]
    refine gathered_run nonempty ?_ ?_
    · intro c last
      rw [List.getLast?_map] at last
      obtain ⟨d, member, rfl⟩ := Option.map_eq_some_iff.1 last
      exact opens d member
    · intro c first
      rw [List.head?_map] at first
      obtain ⟨d, member, rfl⟩ := Option.map_eq_some_iff.1 first
      exact closes d member
  rw [reduce_gathered, gathered_cons rfl]
  refine (Opens.text (apart_gathered _) (meets_gathered (List.forall_mem_map.2 meets)) ?_).reduce
  obtain ⟨c, member, promised⟩ := promise
  exact ⟨c, whole ▸ List.mem_append_left _ (List.mem_append_right _ member), promised⟩

end Cell

namespace Doc

/-- The leaves of a document in order, without what encloses them. -/
def leafList (d : Doc) : List Leaf := d.leaves.map Strand.leaf

theorem leafList_sink (d : Doc) : d.sink.leafList = d.leafList := by
  rw [leafList, leaves, strands_sink, ← leaves, ← leafList]

theorem leafList_concat (ds : List Doc) : (concat ds).leafList = ds.flatMap leafList := by
  rw [leafList, leaves, strands_concat, List.map_flatMap]
  rfl

/-- Cells that are reduced behind a text have leaves between it and a text behind them. -/
theorem leafList_of_opens {spacing : Doc → Prop} {x : String} {cells : List Cell}
    (opens : Cell.Opens spacing x cells) (contents : ∀ c ∈ cells, c.isControl = false) (y : String) :
    ∃ between : List Leaf,
      between ≠ [] ∧
        (concat (cells.map Cell.doc ++ [.text y])).sink.leafList = .text x :: between ++ [.text y] ∨
      x = "\n" ∧
        (concat (cells.map Cell.doc ++ [.text y])).sink.leafList = .hardline 0 :: between ++ [.text y] := by
  cases opens with
  | @text cs _ _ promise =>
    refine ⟨(cs.map Cell.doc).flatMap leafList, .inl ⟨?_, ?_⟩⟩
    · obtain ⟨c, member, promised⟩ := promise
      have content := (List.forall_mem_cons.1 contents).2 c member
      obtain d | d := c
      · cases d with
        | slot => cases content
        | _ => cases promised
      · intro none
        have leafless := List.flatMap_eq_nil_iff.1 none d (List.mem_map_of_mem member)
        exact promised (List.map_eq_nil_iff.1 leafless)
    · rw [leafList_sink, leafList_concat, List.flatMap_append]
      rfl
  | newline cs line =>
    refine ⟨(cs.map Cell.doc).flatMap leafList, .inr ⟨line, ?_⟩⟩
    rw [leafList_sink, leafList_concat, List.flatMap_append]
    rfl

/-- Something stands between two texts where the control nodes between them have a
required slot.  It is a slot of a run of slots side by side that keeps trivia with a leaf, or
that keeps no trivia, where all spacing is empty or has a leaf.  Only a line end in front may
have become a hard line end, with or without something behind it. -/
theorem leaves_resolve_required (x y : String) {front back : List Doc} {run : List Slot}
    (controls : ∀ d ∈ front ++ back, d.isControl)
    (opens : ∀ d ∈ front.getLast?, d.isSlot = false) (closes : ∀ d ∈ back.head?, d.isSlot = false)
    (required : ∃ s ∈ run, s.required)
    (kept : (∃ d ∈ run.filterMap Slot.trivia, d.Shows) ∨
      run.filterMap Slot.trivia = [] ∧
        ∀ d ∈ front ++ run.map Slot.doc ++ back, ∀ p ∈ d.spacings, p.isEmpty ∨ p.Shows) :
    ∃ between : List Leaf,
      between ≠ [] ∧
        (resolve (.seq (.text x :: (front ++ run.map Slot.doc ++ back) ++ [.text y]))).leafList
          = .text x :: between ++ [.text y] ∨
      x = "\n" ∧
        (resolve (.seq (.text x :: (front ++ run.map Slot.doc ++ back) ++ [.text y]))).leafList
          = .hardline 0 :: between ++ [.text y] := by
  have all : ∀ d ∈ front ++ run.map Slot.doc ++ back, d.isControl := by
    simp only [List.forall_mem_append, List.forall_mem_map] at controls ⊢
    exact ⟨⟨controls.1, fun _ _ => rfl⟩, controls.2⟩
  obtain ⟨spacing, meets, promise⟩ : ∃ spacing : Doc → Prop,
      (∀ d ∈ front ++ run.map Slot.doc ++ back, d.Meets spacing fun _ => True) ∧
        ∃ c ∈ Cell.gathered (run.map fun s => .raw s.doc), c.Promises spacing := by
    obtain trivia | ⟨none, prints⟩ := kept
    · exact ⟨fun _ => True, fun d _ => meets_of_spacings trivial fun _ _ => trivial,
        Cell.promises_gathered (.inl trivia)⟩
    · exact ⟨fun p => p.isEmpty ∨ p.Shows,
        fun d member => meets_of_spacings (.inr shows_space) (prints d member),
        Cell.promises_gathered (.inr ⟨none, required, fun _ own => own⟩)⟩
  rw [resolve_between (.text x) (.text y) all]
  exact leafList_of_opens (Cell.opens_reduce x opens closes meets promise) (Cell.isControl_reduce _) y

/-- An empty word boundary comes to something even among empty spacing. -/
theorem leaves_resolve_required_word :
    ∃ between : List Leaf, between ≠ [] ∧
      (resolve (.seq [.text "let", .after .empty, .slot none none false, .slot (some .empty) none true,
          .before .space, .text "x"])).leafList
        = .text "let" :: between ++ [.text "x"] := by
  have spacings : ∀ d ∈ [Doc.after .empty, .slot none none false, .slot (some .empty) none true,
      .before .space], ∀ p ∈ d.spacings, p.isEmpty ∨ p.Shows := by
    simp [Doc.spacings, isEmpty, shows_space]
  obtain ⟨between, shown | ⟨line, -⟩⟩ := @leaves_resolve_required "let" "x"
    [.after .empty] [.before .space] [⟨none, none, false⟩, ⟨some .empty, none, true⟩]
    (by simp [isControl]) (by simp [isSlot]) (by simp [isSlot]) (by simp) (.inr ⟨rfl, spacings⟩)
  · exact ⟨between, shown⟩
  · exact absurd line (by decide)

/-- One control node between two texts that comes to contents in one step. -/
theorem leafList_of_step? {x y : String} {d : Doc} (control : d.isControl) {cells : List Cell}
    (applied : Cell.step? resolve [.raw (.text x), .raw d] = some cells)
    (contents : ∀ c ∈ cells, c.isControl = false) :
    (resolve (.seq [.text x, d, .text y])).leafList
      = (cells.map Cell.doc).flatMap leafList ++ [.text y] := by
  have all : ∀ e ∈ [d], e.isControl := List.forall_mem_singleton.2 control
  have between := resolve_between (.text x) (.text y) all
  rw [List.map_singleton, Cell.reduce_of_step? applied, Cell.reduce_of_contents contents] at between
  refine (congrArg leafList between).trans ?_
  rw [leafList_sink, leafList_concat, List.flatMap_append]
  rfl

/-- Three required slots with nothing behind them: the trivia of one is empty, the spacing
of one is a group around nothing, and one is behind a line end and becomes one with it. -/
theorem leaves_resolve_required_nothing :
    (resolve (.seq [.text "a", .slot none (some .empty) true, .text "b"])).leafList
        = [.text "a", .text "b"] ∧
      (resolve (.seq [.text "a", .slot (some (.group .empty)) none true, .text "b"])).leafList
        = [.text "a", .text "b"] ∧
      (resolve (.seq [.text "\n", .slot (some .space) none true, .text "b"])).leafList
        = [.hardline 0, .text "b"] := by
  have group : resolve (.group .empty) = .group .empty := by
    have none : Cell.reduce resolve [] = [] := Cell.reduce_of_contents (List.forall_mem_nil _)
    have closed : (Doc.group .empty).opened = [.group .empty] := rfl
    rw [resolve_eq, resolveWith_eq, closed]
    simp [toCells, toCell, assemble, sweep, none, Cell.isControl, isControl, Cell.isNewline, Cell.doc,
      concat, splice, items, isEmpty, ofParts, sink]
  refine ⟨?_, ?_, ?_⟩
  · have applied : Cell.step? resolve [.raw (.text "a"), .raw (.slot none (some .empty) true)]
        = some [.raw (.text "a"), .settled (resolve .empty)] := rfl
    rw [leafList_of_step? rfl applied (by simp [Cell.isControl, isControl]), resolve_empty]
    rfl
  · have applied : Cell.step? resolve [.raw (.text "a"), .raw (.slot (some (.group .empty)) none true)]
        = some [.raw (.text "a"), .settled (resolve (.group .empty))] := rfl
    rw [leafList_of_step? rfl applied (by simp [Cell.isControl, isControl]), group]
    rfl
  · have applied : Cell.step? resolve [.raw (.text "\n"), .raw (.slot (some .space) none true)]
        = some [.settled (.hardline 0)] := rfl
    rw [leafList_of_step? rfl applied (by simp [Cell.isControl])]
    rfl

end Doc

end Reprint
