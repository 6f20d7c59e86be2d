import Mathlib.Data.List.Basic
import Reprint.Proofs.Pattern.Brackets

/-!
# A parenthesis behind a lexeme

The lexemes of a pattern are the same with a closing parenthesis behind its text
(`Lexeme.extends_first?`).
-/

namespace Reprint.Pattern

namespace Lexeme

theorem extends_count? (m : Mode) (cs : List Char) :
    Extends Leaves (count? m cs) (count? m (cs ++ [')'])) := by
  rcases spanned : m.span Char.isDigit (cs.dropWhile Text.isBlank) with ⟨digits, rest⟩
  obtain ⟨longer, spanned', leaves⟩ := Mode.leaves_span (by decide) spanned
  rw [count?, count?, Mode.dropBlanks_append, spanned, spanned']
  dsimp only
  split_ifs
  · exact .none _
  · obtain followed | ⟨rfl, rfl⟩ := leaves
    · rw [followed, Mode.dropBlanks_append]
      exact .some _ (.inl rfl)
    · exact .some _ (.inr ⟨rfl, rfl⟩)

theorem extends_marked (m : Mode) (least : Nat) (most : Option Nat) {rest longer : List Char}
    (leaves : Leaves rest longer) :
    Extends Leaves (some (marked m least most rest)) (some (marked m least most longer)) := by
  have plain {c : Char} (other : c ≠ '?') (cs : List Char) :
      marked m least most (c :: cs) = (.rounds least most (!m.swapGreed), c :: cs) := by
    rw [marked]
    exact fun cs same => absurd (List.cons.inj same).1 other
  rcases rest with _ | ⟨c, rest⟩
  · obtain rfl | ⟨-, rfl⟩ := leaves
    · exact .some _ (.inl rfl)
    · exact .some _ (.inr ⟨rfl, rfl⟩)
  · obtain rfl := leaves.followed (List.cons_ne_nil _ _)
    by_cases question : c = '?'
    · subst question
      exact .some _ (.inl rfl)
    · rw [List.cons_append, plain question, plain question]
      exact .some _ (.inl rfl)

/-- The end of a repetition with a least and a greatest number. -/
def between? (m : Mode) (least most : Nat) : List Char → Option (Lexeme × List Char)
  | '\x7d' :: cs => if least ≤ most then some (marked m least (some most) (m.skip cs)) else none
  | _ => none

/-- What follows the comma of a repetition. -/
def upTo? (m : Mode) (least : Nat) : List Char → Option (Lexeme × List Char)
  | '\x7d' :: cs => some (marked m least none (m.skip cs))
  | cs => (count? m cs).bind fun x => between? m least x.1 x.2

/-- What follows the least number of a repetition. -/
def atLeast? (m : Mode) (least : Nat) : List Char → Option (Lexeme × List Char)
  | '\x7d' :: cs => some (marked m least (some least) (m.skip cs))
  | ',' :: cs => upTo? m least (m.skip cs)
  | _ => none

theorem counted?_eq (m : Mode) (cs : List Char) :
    counted? m cs = (count? m (m.skip cs)).bind fun x => atLeast? m x.1 x.2 := by
  rfl

theorem extends_between? (m : Mode) (least most : Nat) {rest longer : List Char}
    (leaves : Leaves rest longer) :
    Extends Leaves (between? m least most rest) (between? m least most longer) := by
  unfold between?
  split
  · next cs =>
    obtain rfl := leaves.followed (List.cons_ne_nil _ _)
    by_cases ordered : least ≤ most
    · simp only [List.cons_append, if_pos ordered]
      exact extends_marked m least (some most) (m.leaves_skip cs)
    · simp only [if_neg ordered]
      exact .none _
  · exact .none _

theorem extends_upTo? (m : Mode) (least : Nat) {rest longer : List Char}
    (leaves : Leaves rest longer) :
    Extends Leaves (upTo? m least rest) (upTo? m least longer) := by
  rcases rest with _ | ⟨c, rest⟩
  · exact .none _
  obtain rfl := leaves.followed (List.cons_ne_nil _ _)
  by_cases brace : c = '\x7d'
  · subst brace
    exact extends_marked m least none (m.leaves_skip rest)
  · have numbered (cs : List Char) :
        upTo? m least (c :: cs) = (count? m (c :: cs)).bind fun x => between? m least x.1 x.2 := by
      rw [upTo?]
      exact fun cs same => absurd (List.cons.inj same).1 brace
    rw [List.cons_append, numbered, numbered]
    exact (extends_count? m (c :: rest)).bind fun most _ _ => extends_between? m least most

theorem extends_atLeast? (m : Mode) (least : Nat) {rest longer : List Char}
    (leaves : Leaves rest longer) :
    Extends Leaves (atLeast? m least rest) (atLeast? m least longer) := by
  unfold atLeast?
  split
  · next cs =>
    obtain rfl := leaves.followed (List.cons_ne_nil _ _)
    exact extends_marked m least (some least) (m.leaves_skip cs)
  · next cs =>
    obtain rfl := leaves.followed (List.cons_ne_nil _ _)
    exact extends_upTo? m least (m.leaves_skip cs)
  · exact .none _

theorem extends_counted? (m : Mode) (cs : List Char) :
    Extends Leaves (counted? m cs) (counted? m (cs ++ [')'])) := by
  rw [counted?_eq, counted?_eq]
  rcases skipped : m.skip cs with _ | ⟨c, cs'⟩
  · exact .none _
  · rw [m.skip_append skipped]
    exact (extends_count? m (c :: cs')).bind fun least _ _ => extends_atLeast? m least

theorem extends_groupName? (cs : List Char) :
    Extends Followed (groupName? cs) (groupName? (cs ++ [')'])) := by
  rcases parted : cs.dropWhile (· != '>') with _ | ⟨d, rest⟩
  · rw [groupName?, parted]
    cases cs.takeWhile (· != '>') <;> exact .none _
  obtain ⟨taken, left⟩ := while_append parted [')']
  rw [groupName?, groupName?, taken, left, parted]
  rcases cs.takeWhile (· != '>') with _ | ⟨c, name⟩
  · exact .none _
  dsimp only
  split_ifs
  · exact .some _ rfl
  · exact .none _

/-- Settings for a group or for the rest of the group around. -/
def settings? (cs : List Char) : Option (Lexeme × List Char) :=
  let isEnd (c : Char) : Bool := c == ':' || c == ')'
  match flags? true [] (cs.takeWhile (!isEnd ·)), cs.dropWhile (!isEnd ·) with
  | some changes, ':' :: rest => some (.openingWith changes, rest)
  | some changes, ')' :: rest => if changes.isEmpty then none else some (.change changes, rest)
  | _, _ => none

theorem extends_settings? (cs : List Char) :
    Extends Followed (settings? cs) (settings? (cs ++ [')'])) := by
  rcases parted : cs.dropWhile (fun c => !(c == ':' || c == ')')) with _ | ⟨c, rest⟩
  · rw [settings?, parted]
    cases flags? true [] (cs.takeWhile fun c => !(c == ':' || c == ')')) <;> exact .none _
  obtain ⟨taken, left⟩ := while_append parted [')']
  rw [settings?, settings?, parted, taken, left]
  cases flags? true [] (cs.takeWhile fun c => !(c == ':' || c == ')')) with
  | none => exact .none _
  | some changes =>
    by_cases colon : c = ':'
    · subst colon
      exact .some _ rfl
    by_cases closing : c = ')'
    · subst closing
      show Extends Followed (if changes.isEmpty then none else some (Lexeme.change changes, rest))
        (if changes.isEmpty then none else some (Lexeme.change changes, rest ++ [')']))
      split_ifs
      · exact .none _
      · exact .some _ rfl
    · split
      · next _ same => exact absurd (List.cons.inj same).1 colon
      · next _ same => exact absurd (List.cons.inj same).1 closing
      · exact .none _

/-- What is not a name is settings. -/
theorem group?_settings {cs : List Char} (named : ∀ rest, cs ≠ 'P' :: '<' :: rest)
    (plain : ∀ rest, cs ≠ '<' :: rest) : group? ('?' :: cs) = settings? cs := by
  rw [group?]
  · rfl
  · exact named
  · exact plain

theorem extends_group? (cs : List Char) :
    Extends Followed (group? cs) (group? (cs ++ [')'])) := by
  rcases cs with _ | ⟨c, cs⟩
  · exact .some _ rfl
  by_cases question : c = '?'
  · subst question
    by_cases named : ∃ rest, cs = 'P' :: '<' :: rest
    · obtain ⟨rest, rfl⟩ := named
      exact extends_groupName? rest
    by_cases plain : ∃ rest, cs = '<' :: rest
    · obtain ⟨rest, rfl⟩ := plain
      exact extends_groupName? rest
    · push Not at named plain
      rw [List.cons_append, group?_settings named plain, group?_settings]
      · exact extends_settings? cs
      · rcases cs with _ | ⟨d, _ | ⟨e, cs⟩⟩
        · rintro rest ⟨⟩
        · rintro rest ⟨⟩
        · rintro rest ⟨⟩
          exact named cs rfl
      · rcases cs with _ | ⟨d, cs⟩
        · rintro rest ⟨⟩
        · rintro rest ⟨⟩
          exact plain cs rfl
  · have alone (cs : List Char) : group? (c :: cs) = some (.opening none, c :: cs) := by
      rw [group?]
      all_goals
        intros
        simp_all
    rw [List.cons_append, alone, alone]
    exact .some _ rfl

/-- The characters that do not stand for themselves. -/
def marks : List Char := ['(', ')', '|', '[', '?', '*', '+', '\x7b', '\\', '.', '^', '$']

theorem first?_char (m : Mode) {c : Char} (plain : c ∉ marks) (cs : List Char) :
    first? m (c :: cs) = (m.char? c false).map fun e => (.part e 0, cs) := by
  rw [first?]
  · rfl
  all_goals
    rintro rfl
    exact plain (by decide)

theorem extends_first? (m : Mode) (cs : List Char) :
    Extends Leaves (first? m cs) (first? m (cs ++ [')'])) := by
  rcases cs with _ | ⟨c, cs⟩
  · exact .none _
  by_cases mark : c ∈ marks
  swap
  · rw [List.cons_append, first?_char m mark, first?_char m mark]
    exact .map_same _ _ (.inl rfl)
  simp only [marks, List.mem_cons, List.not_mem_nil, or_false] at mark
  rcases mark with rfl | rfl | rfl | rfl | rfl | rfl | rfl | rfl | rfl | rfl | rfl | rfl
  · show Extends Leaves (group? (m.skip cs)) (group? (m.skip (cs ++ [')'])))
    obtain followed | ⟨ended, ended'⟩ := m.leaves_skip cs
    · rw [followed]
      exact (extends_group? _).leaves
    · rw [ended, ended']
      exact .some _ (.inr ⟨rfl, rfl⟩)
  · exact .some _ (.inl rfl)
  · exact .some _ (.inl rfl)
  · exact (Brackets.extends_read? m cs).map fun operand =>
      Lexeme.part (.ofSet operand.set) operand.depth
  · exact extends_marked m 0 (some 1) (.inl rfl)
  · exact extends_marked m 0 none (.inl rfl)
  · exact extends_marked m 1 none (.inl rfl)
  · exact extends_counted? m cs
  · refine (Escape.extends_read? m cs).bind ?_
    rintro escape rest _ rfl
    cases escape with
    | literal c byte => exact .map_same (m.char? c byte) _ (.inl rfl)
    | look l => exact .some _ (.inl rfl)
    | set s => exact .some _ (.inl rfl)
  · exact .map_same m.dot? _ (.inl rfl)
  · exact .some _ (.inl rfl)
  · exact .some _ (.inl rfl)

end Lexeme

end Reprint.Pattern
