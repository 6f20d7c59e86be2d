import Reprint.Proofs.Parse.Run
import Reprint.Proofs.Tree

/-!
# Parsed trees cover their text

The children that a match leaves lie one behind the other, from the place where
the match began to the place behind it, and the same holds inside each of them
(`laid_of_run`).  So the leaves of a parsed tree give back the text, and so do
the leaves of what stood in one of its slots.
-/

namespace Reprint

/-! ## Offsets -/

namespace Text

theorem width_append (cs ds : List Char) : width (cs ++ ds) = width cs + width ds := by
  induction cs with
  | nil => simp [width]
  | cons c cs ih => simp [width, ih, Nat.add_assoc]

theorem dropBytes?_cons (c : Char) (cs : List Char) (count : Nat) :
    dropBytes? (c.utf8Size + count) (c :: cs) = dropBytes? count cs := by
  obtain ⟨n, size⟩ := Nat.exists_eq_succ_of_ne_zero (Nat.ne_of_gt c.utf8Size_pos)
  have sum : c.utf8Size + count = n + count + 1 := by omega
  have behind : n + count + 1 - c.utf8Size = count := by omega
  rw [sum, dropBytes?, if_pos (by omega), behind]

theorem takeBytes?_cons (c : Char) (cs : List Char) (count : Nat) :
    takeBytes? (c.utf8Size + count) (c :: cs) = (takeBytes? count cs).map (c :: ·) := by
  obtain ⟨n, size⟩ := Nat.exists_eq_succ_of_ne_zero (Nat.ne_of_gt c.utf8Size_pos)
  have sum : c.utf8Size + count = n + count + 1 := by omega
  have behind : n + count + 1 - c.utf8Size = count := by omega
  rw [sum, takeBytes?, if_pos (by omega), behind]

theorem dropBytes?_append (before rest : List Char) :
    dropBytes? (width before) (before ++ rest) = some rest := by
  induction before with
  | nil => cases rest <;> rfl
  | cons c cs ih => rw [width, List.cons_append, dropBytes?_cons, ih]

theorem takeBytes?_append (text rest : List Char) :
    takeBytes? (width text) (text ++ rest) = some text := by
  induction text with
  | nil => cases rest <;> rfl
  | cons c cs ih => rw [width, List.cons_append, takeBytes?_cons, ih, Option.map_some]

/-- A text is what stands between its first and its last offset. -/
theorem slice?_append (before text rest : List Char) :
    slice? (before ++ (text ++ rest)) (width before) (width before + width text) = some text := by
  rw [slice?, if_pos (Nat.le_add_right _ _), dropBytes?_append, Option.bind_some,
    Nat.add_sub_cancel_left, takeBytes?_append]

/-- A text stands between two offsets of another one, in front of the rest of it. -/
def Stands (whole : List Char) (start stop : Nat) (text behind : List Char) : Prop :=
  ∃ before, whole = before ++ (text ++ behind) ∧ start = width before ∧ stop = start + width text

theorem dropBytes?_eq_some {cs rest : List Char} {offset : Nat} :
    dropBytes? offset cs = some rest ↔ ∃ before, cs = before ++ rest ∧ offset = width before := by
  refine ⟨fun cut => ?_, fun ⟨before, whole, start⟩ => whole ▸ start ▸ dropBytes?_append before rest⟩
  induction cs generalizing offset with
  | nil =>
    cases offset with
    | zero => exact ⟨[], by simpa [dropBytes?] using cut, rfl⟩
    | succ offset => simp [dropBytes?] at cut
  | cons c cs ih =>
    cases offset with
    | zero => exact ⟨[], by simpa [dropBytes?] using cut, rfl⟩
    | succ offset =>
      rw [dropBytes?] at cut
      split_ifs at cut with fits
      obtain ⟨before, rfl, start⟩ := ih cut
      exact ⟨c :: before, rfl, by rw [width]; omega⟩

end Text

namespace Cursor

/-- A place lies ahead of another one, with a text between. -/
def Ahead (c : Cursor) (text : List Char) (d : Cursor) : Prop :=
  c.rest = text ++ d.rest ∧ d.offset = c.offset + Text.width text

/-- A place in a source. -/
def In (source : String) (c : Cursor) : Prop := ∃ before, Ahead (.start source) before c

theorem Ahead.refl (c : Cursor) : Ahead c [] c := ⟨rfl, rfl⟩

theorem Ahead.trans {c d e : Cursor} {text more : List Char} (first : Ahead c text d)
    (second : Ahead d more e) : Ahead c (text ++ more) e := by
  refine ⟨?_, ?_⟩
  · rw [first.1, second.1, List.append_assoc]
  · rw [second.2, first.2, Text.width_append, Nat.add_assoc]

theorem ahead_advance (c : Cursor) (count : Nat) : Ahead c (c.rest.take count) (c.advance count) :=
  ⟨(List.take_append_drop count c.rest).symm, rfl⟩

theorem in_start (source : String) : In source (.start source) := ⟨[], .refl _⟩

theorem In.ahead {source : String} {c d : Cursor} {text : List Char} (within : In source c)
    (ahead : Ahead c text d) : In source d := by
  obtain ⟨before, reached⟩ := within
  exact ⟨before ++ text, reached.trans ahead⟩

/-- The span between two places covers the text between them. -/
theorem Ahead.slice? {source : String} {c d : Cursor} {text : List Char} (within : In source c)
    (ahead : Ahead c text d) : Text.slice? source.toList c.offset d.offset = some text := by
  obtain ⟨before, reached⟩ := within
  have whole : source.toList = before ++ (text ++ d.rest) := by
    rw [← ahead.1]
    exact reached.1
  have start : c.offset = Text.width before := by
    rw [reached.2]
    exact Nat.zero_add _
  rw [whole, ahead.2, start, Text.slice?_append]

theorem Ahead.slice?_spanTo {source : String} {c d : Cursor} {text : List Char}
    (ahead : Ahead c text d) (within : In source c) :
    (c.spanTo d).slice? source = some (String.ofList text) := by
  rw [Span.slice?]
  exact congrArg (Option.map String.ofList) (ahead.slice? within)

end Cursor

/-! ## Children one behind the other -/

/-- The children lie one behind the other from one place to another, and so do
the children of each of them.  What stood in slots was matched by the rule for it. -/
inductive Laid (g : Grammar) : Cursor → List Child → Cursor → Prop
  | nil (c : Cursor) : Laid g c [] c
  | token {label : Option String} {c d e : Cursor} {text : List Char} {rest : List Child} :
      c.Ahead text d → Laid g d rest e → Laid g c (.token label (c.spanTo d) :: rest) e
  | node {label : Option String} {id : Nat} {c d e : Cursor} {inner rest : List Child} :
      Laid g c inner d → Laid g d rest e →
      Laid g c (.node label ⟨id, c.spanTo d, inner⟩ :: rest) e
  | trivia {label : Option String} {id : Nat} {c d e : Cursor} {inner rest : List Child} :
      g.trivia = some id → Laid g c inner d → Laid g d rest e →
      Laid g c (.trivia label ⟨id, c.spanTo d, inner⟩ :: rest) e

namespace Laid

variable {g : Grammar} {c d e : Cursor} {xs ys : List Child}

theorem append (first : Laid g c xs d) (second : Laid g d ys e) : Laid g c (xs ++ ys) e := by
  induction first with
  | nil => exact second
  | token ahead _ ih => exact .token ahead (ih second)
  | node inner _ _ ih => exact .node inner (ih second)
  | trivia known inner _ _ ih => exact .trivia known inner (ih second)

theorem eq_of_nil (laid : Laid g c [] d) : d = c := by
  cases laid
  rfl

/-- Children that are laid cover the text between the two places. -/
theorem ahead {source : String} (within : c.In source) (laid : Laid g c xs d) :
    c.Ahead ((leavesAll xs).flatMap (Child.chars source)) d := by
  induction laid with
  | nil => exact .refl _
  | @token label c d e text rest ahead _ ih =>
    have own : Child.chars source (.token label (c.spanTo d)) = text := by
      rw [Child.chars]
      exact congrArg (Option.getD · []) (ahead.slice? within)
    have further := ahead.trans (ih (within.ahead ahead))
    rwa [leavesAll, Child.leaves, List.singleton_append, List.flatMap_cons, own]
  | @node label id c d e inner rest _ _ inside ih =>
    have own := inside within
    have further := own.trans (ih (within.ahead own))
    rwa [leavesAll, Child.leaves_node, List.flatMap_append]
  | @trivia label id c d e inner rest known _ _ inside ih =>
    have own := inside within
    have covered : Child.chars source (.trivia label ⟨id, c.spanTo d, inner⟩)
        = (leavesAll inner).flatMap (Child.chars source) := by
      rw [Child.chars]
      exact congrArg (Option.getD · []) (own.slice? within)
    have further := own.trans (ih (within.ahead own))
    rwa [leavesAll, Child.leaves, List.singleton_append, List.flatMap_cons, covered]

end Laid

/-- The children of a child lie one behind the other at its place in a source. -/
def Child.Placed (g : Grammar) (source : String) : Child → Prop
  | .token .. => True
  | .node _ body => ∃ c d, c.In source ∧ Laid g c body.children d
  | .trivia _ body => g.trivia = some body.rule ∧
    ∃ c d, c.In source ∧ body.span = c.spanTo d ∧ Laid g c body.children d

theorem Laid.placed {g : Grammar} {source : String} {c d : Cursor} {xs : List Child}
    (laid : Laid g c xs d) (within : c.In source) : ∀ x ∈ xs, x.Placed g source := by
  induction laid with
  | nil => exact List.forall_mem_nil _
  | token ahead _ ih => exact List.forall_mem_cons.2 ⟨trivial, ih (within.ahead ahead)⟩
  | node inner _ _ ih =>
    exact List.forall_mem_cons.2 ⟨⟨_, _, within, inner⟩, ih (within.ahead (inner.ahead within))⟩
  | trivia known inner _ _ ih =>
    exact List.forall_mem_cons.2
      ⟨⟨known, _, _, within, rfl, inner⟩, ih (within.ahead (inner.ahead within))⟩

/-- What stood in a slot is covered by its leaves. -/
theorem Child.Placed.chars_trivia {g : Grammar} {source : String} {label : Option String} {body : Tree}
    (placed : (Child.trivia label body).Placed g source) :
    (Child.trivia label body).chars source = body.leaves.flatMap (Child.chars source) := by
  obtain ⟨_, c, d, within, span, laid⟩ := placed
  have covered := (laid.ahead within).slice? within
  rw [Child.chars, Child.span, span]
  exact congrArg (Option.getD · []) covered

namespace Matching

/-- A run lays the children that it takes from the place before to the place behind. -/
theorem laid_of_run {g : Grammar} {site : Site} {part : Part} {s t : Stage} {log : List Note}
    (run : Run g site part s t log) : ∃ xs, s.left = xs ++ t.left ∧ Laid g s.place xs t.place := by
  induction run with
  | tight | noBlanks | untold | noTrivia | absent | stop | nil => exact ⟨[], rfl, .nil _⟩
  | @blanks _ _ c _ text =>
    exact ⟨[_], rfl, .token (c.ahead_advance text.length) (.nil _)⟩
  | literal => exact ⟨[_], rfl, .token (Cursor.ahead_advance _ _) (.nil _)⟩
  | pattern => exact ⟨[_], rfl, .token (Cursor.ahead_advance _ _) (.nil _)⟩
  | trivia _ _ known _ _ _ _ _ _ ih =>
    obtain ⟨xs, rfl, inner⟩ := by simpa only [List.append_nil] using ih
    exact ⟨[_], rfl, .trivia known inner (.nil _)⟩
  | node _ _ _ _ ih =>
    obtain ⟨xs, rfl, inner⟩ := by simpa only [List.append_nil] using ih
    exact ⟨[_], rfl, .node inner (.nil _)⟩
  | group _ ih | single _ _ _ ih | many _ _ _ _ ih | here _ ih | next _ _ ih | last _ _ ih => exact ih
  | once _ _ first second | more _ _ _ first second | cons _ _ first second
  | production _ _ first second =>
    obtain ⟨xs, same, front⟩ := first
    obtain ⟨ys, same', back⟩ := second
    exact ⟨xs ++ ys, by rw [same, same', List.append_assoc], front.append back⟩

end Matching

/-- A parsed tree lies in its source from the start to the end. -/
theorem laid_of_parse {g : Grammar} (unsuppressed : g.Unsuppressed) {rule source : String} {tree : Tree}
    (parsed : g.parse rule source = .ok tree) :
    ∃ d : Cursor, d.rest = [] ∧ Laid g (.start source) tree.children d := by
  obtain ⟨_, log, reads⟩ := Matching.reads_of_parse unsuppressed parsed
  obtain ⟨_, _, run, done, _⟩ := reads
  obtain ⟨children, same, laid⟩ := Matching.laid_of_run run
  obtain rfl : _ = children := same.trans (List.append_nil children)
  exact ⟨_, done, laid⟩

/-- The leaves of a parsed tree give back the text. -/
theorem chars_leaves_of_laid {g : Grammar} {source : String} {tree : Tree} {d : Cursor}
    (done : d.rest = []) (laid : Laid g (.start source) tree.children d) :
    tree.leaves.flatMap (Child.chars source) = source.toList := by
  have ahead := laid.ahead (Cursor.in_start source)
  have whole := ahead.1
  rw [done, List.append_nil] at whole
  exact whole.symm

end Reprint
