import Mathlib.Tactic.Push
import Reprint.Proofs.Pattern.Escape

/-!
# A parenthesis behind a set in brackets

A set is read to its closing bracket, so that a parenthesis behind the text is
never part of it (`Brackets.extends_read?`).
-/

namespace Reprint.Pattern

namespace Brackets

/-- The mark of a complement, behind the opening bracket. -/
def sign (m : Mode) (cs : List Char) : Bool × List Char :=
  match m.skip cs with
  | '^' :: rest => (true, m.skip rest)
  | cs => (false, cs)

theorem extends_sign (m : Mode) (cs : List Char) :
    Extends Leaves (some (sign m cs)) (some (sign m (cs ++ [')']))) := by
  have leaves := m.leaves_skip cs
  rcases skipped : m.skip cs with _ | ⟨c, rest⟩
  · rw [skipped] at leaves
    rw [sign, sign, skipped]
    obtain same | ⟨-, same⟩ := leaves
    · rw [same]
      exact .some _ (.inl rfl)
    · rw [same]
      exact .some _ (.inr ⟨rfl, rfl⟩)
  · rw [sign, sign, skipped, m.skip_append skipped]
    by_cases hat : c = '^'
    · subst hat
      exact .some _ (m.leaves_skip rest)
    · have alone (rest : List Char) : (match c :: rest with
          | '^' :: rest => (true, m.skip rest)
          | cs => (false, cs)) = (false, c :: rest) := by
        simp [hat]
      rw [alone, alone]
      exact .some _ (.inl rfl)

/-- What stands for itself in front of the parts. -/
def leading (m : Mode) (negated : Bool) (cs : List Char) : Brackets × List Char :=
  let b : Brackets := { negated }
  match m.span (· == '-') cs with
  | ([], ']' :: rest) => (b.add (.single ']'.toNat) 0, rest)
  | (hyphens, rest) => (hyphens.foldl (fun b c => b.add (.single c.toNat) 0) b, rest)

theorem opened_eq (m : Mode) (cs : List Char) :
    opened m cs = leading m (sign m cs).1 (sign m cs).2 := rfl

theorem extends_leading (m : Mode) (negated : Bool) (cs : List Char) :
    Extends Leaves (some (leading m negated cs)) (some (leading m negated (cs ++ [')']))) := by
  rcases spanned : m.span (· == '-') cs with ⟨hyphens, rest⟩
  obtain ⟨longer, spanned', leaves⟩ := Mode.leaves_span (by decide) spanned
  rw [leading, leading, spanned, spanned']
  rcases rest with _ | ⟨c, rest⟩
  · have other : longer = [')'] ∨ longer = [] := leaves.imp id And.right
    obtain rfl | rfl := other
    · cases hyphens <;> exact .some _ leaves
    · cases hyphens <;> exact .some _ leaves
  · obtain rfl := leaves.followed (List.cons_ne_nil _ _)
    by_cases first : hyphens = [] ∧ c = ']'
    · obtain ⟨rfl, rfl⟩ := first
      exact .some _ (.inl rfl)
    · have plain (rest : List Char) : (match (hyphens, c :: rest) with
          | ([], ']' :: rest) => (add { negated } (.single ']'.toNat) 0, rest)
          | (hyphens, rest) =>
            (hyphens.foldl (fun b c => b.add (.single c.toNat) 0) { negated }, rest)) =
          (hyphens.foldl (fun b c => b.add (.single c.toNat) 0) { negated }, c :: rest) := by
        cases hyphens with
        | nil => simp [show c ≠ ']' from fun same => first ⟨rfl, same⟩]
        | cons => rfl
      rw [List.cons_append, plain, plain]
      exact .some _ leaves

theorem extends_opened (m : Mode) (cs : List Char) :
    Extends Leaves (some (opened m cs)) (some (opened m (cs ++ [')']))) := by
  rcases marked : sign m cs with ⟨negated, rest⟩
  obtain ⟨longer, marked', followed | ⟨rfl, rfl⟩⟩ :=
    extends_sign m cs negated rest (congrArg some marked)
  · rw [opened_eq, opened_eq, marked, Option.some.inj marked', followed]
    exact extends_leading m negated rest
  · rw [opened_eq, opened_eq, marked, Option.some.inj marked']
    exact .some _ (.inr ⟨rfl, rfl⟩)

/-- A name up to the mark that closes it. -/
def name? (negated : Bool) (cs : List Char) : Option (Bool × Text.Ranges × List Char) :=
  match cs.dropWhile (· != ':') with
  | ':' :: ']' :: rest =>
    (namedSet? (String.ofList (cs.takeWhile (· != ':')))).map fun s => (negated, s, rest)
  | _ => none

theorem name?_append (negated : Bool) (cs : List Char) :
    name? negated (cs ++ [')']) = (name? negated cs).map fun x => (x.1, x.2.1, x.2.2 ++ [')']) := by
  rcases parted : cs.dropWhile (· != ':') with _ | ⟨c, rest⟩
  · have all : (cs ++ [')']).dropWhile (· != ':') = [] := by
      rw [List.dropWhile_append, parted]
      rfl
    rw [name?, name?, parted, all]
    rfl
  · obtain ⟨taken, left⟩ := while_append parted [')']
    have unclosed (text : List Char) (other : ∀ rest, text ≠ ':' :: ']' :: rest) :
        (match text with
          | ':' :: ']' :: rest =>
            (namedSet? (String.ofList (cs.takeWhile (· != ':')))).map fun s => (negated, s, rest)
          | _ => none) = none := by
      split
      · next rest => exact absurd rfl (other rest)
      · rfl
    rw [name?, name?, taken, left, parted]
    rcases rest with _ | ⟨d, rest⟩
    · rw [unclosed _ (by simp), unclosed _ (by simp)]
      rfl
    by_cases closes : c = ':' ∧ d = ']'
    · obtain ⟨rfl, rfl⟩ := closes
      cases namedSet? (String.ofList (cs.takeWhile (· != ':'))) <;> rfl
    · have other (rest more : List Char) : c :: d :: rest ≠ ':' :: ']' :: more := by
        rintro ⟨⟩
        exact closes ⟨rfl, rfl⟩
      rw [List.cons_append, unclosed _ (other _), unclosed _ (other _)]
      rfl

theorem named?_append (cs : List Char) :
    named? (cs ++ [')']) = (named? cs).map fun x => (x.1, x.2.1, x.2.2 ++ [')']) := by
  rcases cs with _ | ⟨c, cs⟩
  · rfl
  by_cases colon : c = ':'
  · subst colon
    rcases cs with _ | ⟨c, cs⟩
    · rfl
    by_cases hat : c = '^'
    · subst hat
      exact name?_append true cs
    · have plain (cs : List Char) : named? (':' :: c :: cs) = name? false (c :: cs) := by
        simp [named?, hat]
        rfl
      rw [List.cons_append, List.cons_append, plain, plain]
      exact name?_append false (c :: cs)
  · have other (cs : List Char) : named? (c :: cs) = none := by
      rw [named?]
      exact fun cs same => absurd (List.cons.inj same).1 colon
    rw [List.cons_append, other, other]
    rfl

theorem extends_item? (m : Mode) (cs : List Char) :
    Extends Followed (item? m cs) (item? m (cs ++ [')'])) := by
  rcases cs with _ | ⟨c, cs⟩
  · exact .none _
  by_cases slash : c = '\\'
  · subst slash
    exact Escape.extends_read? m cs
  · have alone (rest : List Char) : item? m (c :: rest) = some (.literal c false, rest) := by
      simp [item?]
    rw [List.cons_append, alone, alone]
    exact .some _ rfl

/-- The characters that one end of a range stands for alone. -/
def single? (m : Mode) : Escape → Option Text.Ranges
  | .literal c _ => between? m c c
  | .set s => some s
  | .look _ => none

/-- The characters between two ends of a range. -/
def spread? (m : Mode) : Escape → Escape → Option Text.Ranges
  | .literal low _, .literal high _ => between? m low high
  | _, _ => none

theorem range?_single {m : Mode} {cs rest : List Char} {first : Escape}
    (read : item? m cs = some (first, rest))
    (alone : ∀ behind, m.skip rest = '-' :: behind →
      (m.peek behind == some ']' || m.peek behind == some '-') = true) :
    range? m cs = (single? m first).map fun s => (s, m.skip rest) := by
  rw [range?, read]
  simp only [Option.bind_eq_bind, Option.bind_some]
  split
  · next behind skipped =>
    rw [if_pos (alone behind skipped)]
    cases first <;> rfl
  · cases first <;> rfl

theorem range?_spread {m : Mode} {cs rest behind : List Char} {first : Escape}
    (read : item? m cs = some (first, rest)) (skipped : m.skip rest = '-' :: behind)
    (spread : ¬ (m.peek behind == some ']' || m.peek behind == some '-') = true) :
    range? m cs = (item? m (m.skip behind)).bind fun x =>
      (spread? m first x.1).map fun s => (s, x.2) := by
  rw [range?, read]
  simp only [Option.bind_eq_bind, Option.bind_some, skipped, if_neg spread]
  congr 1
  funext ⟨last, rest⟩
  cases first <;> cases last <;> rfl

theorem extends_range? (m : Mode) (cs : List Char) :
    Extends Leaves (range? m cs) (range? m (cs ++ [')'])) := by
  rcases read : item? m cs with _ | ⟨first, rest⟩
  · rw [range?, read]
    exact .none _
  obtain ⟨_, read', rfl⟩ := extends_item? m cs first rest read
  by_cases alone : ∀ behind, m.skip rest = '-' :: behind →
      (m.peek behind == some ']' || m.peek behind == some '-') = true
  · have alone' (behind : List Char) (skipped' : m.skip (rest ++ [')']) = '-' :: behind) :
        (m.peek behind == some ']' || m.peek behind == some '-') = true := by
      rcases skipped : m.skip rest with _ | ⟨c, before⟩
      · have leaves := m.leaves_skip rest
        rw [skipped, skipped'] at leaves
        simp [Leaves, Followed] at leaves
      · obtain ⟨rfl, rfl⟩ := List.cons.inj ((m.skip_append skipped).symm.trans skipped')
        rw [m.peek_append_beq before (by decide), m.peek_append_beq before (by decide)]
        exact alone before skipped
    rw [range?_single read alone, range?_single read' alone']
    exact .map_same _ _ (m.leaves_skip rest)
  · push Not at alone
    obtain ⟨behind, skipped, spread⟩ := alone
    have spread' : ¬ (m.peek (behind ++ [')']) == some ']' ||
        m.peek (behind ++ [')']) == some '-') = true := by
      rwa [m.peek_append_beq behind (by decide), m.peek_append_beq behind (by decide)]
    rw [range?_spread read skipped spread, range?_spread read' (m.skip_append skipped) spread']
    rcases skipped' : m.skip behind with _ | ⟨c, cs'⟩
    · exact .none _
    · rw [m.skip_append skipped']
      refine (extends_item? m (c :: cs')).bind ?_
      rintro last rest _ rfl
      exact .map_same _ id (.inl rfl)

/-- The operator that a character written twice stands for. -/
def operator? : Char → Option SetOp
  | '&' => some .inter
  | '-' => some .diff
  | '~' => some .symmDiff
  | _ => none

section

variable {m : Mode} {c : Char} {cs rest : List Char} (outer : List Brackets) (b : Brackets)

theorem step?_closing (skipped : m.skip cs = ']' :: rest) :
    step? m outer b cs = (b.close? m).bind fun closed =>
      match outer with
      | [] => some (.inr closed, rest)
      | around :: outer => some (.inl (outer, around.add closed.set closed.depth), rest) := by
  rw [step?, skipped]
  rfl

theorem step?_opening (skipped : m.skip cs = '[' :: rest) (other : named? rest = none) :
    step? m outer b cs = some (.inl (b :: outer, (opened m rest).1), (opened m rest).2) := by
  rw [step?, skipped]
  simp only [other]

theorem step?_named {negated : Bool} {s : Text.Ranges} {left : List Char}
    (skipped : m.skip cs = '[' :: rest) (named : named? rest = some (negated, s, left)) :
    step? m outer b cs =
      (m.negate? negated (m.widen s)).map fun s => (.inl (outer, b.add s 0), left) := by
  rw [step?, skipped]
  simp only [named]

theorem step?_operator {op : SetOp} (skipped : m.skip cs = c :: c :: rest)
    (operator : operator? c = some op) :
    step? m outer b cs = some (.inl (outer, b.combine m op), rest) := by
  rw [step?, skipped]
  unfold operator? at operator
  split at operator <;> simp_all

/-- What is neither a bracket nor an operator is a part. -/
theorem step?_part (skipped : m.skip cs = c :: rest) (closing : c ≠ ']') (opening : c ≠ '[')
    (alone : rest.head? = some c → operator? c = none) :
    step? m outer b cs =
      (range? m (c :: rest)).map fun x => (.inl (outer, b.add x.1 0), x.2) := by
  have plain (c' : Char) (rest' : List Char) (twice : c :: rest = c' :: c' :: rest') :
      operator? c' = none := by
    obtain ⟨rfl, rfl⟩ := List.cons.inj twice
    exact alone rfl
  rw [step?, skipped]
  split
  · next ended => cases ended
  · next same => exact absurd (List.cons.inj same).1 closing
  · next same => exact absurd (List.cons.inj same).1 opening
  · next rest' twice => cases plain '&' rest' twice
  · next rest' twice => cases plain '-' rest' twice
  · next rest' twice => cases plain '~' rest' twice
  · rfl

end

theorem extends_step? (m : Mode) (outer : List Brackets) (b : Brackets) (cs : List Char) :
    Extends Leaves (step? m outer b cs) (step? m outer b (cs ++ [')'])) := by
  rcases skipped : m.skip cs with _ | ⟨c, rest⟩
  · rw [step?, skipped]
    exact .none _
  have skipped' := m.skip_append skipped
  by_cases closing : c = ']'
  · subst closing
    rw [step?_closing outer b skipped, step?_closing outer b skipped']
    refine .bind_same fun closed => ?_
    cases outer <;> exact .some _ (.inl rfl)
  by_cases opening : c = '['
  · subst opening
    have longer := named?_append rest
    rcases named : named? rest with _ | ⟨negated, s, left⟩
    · rw [named] at longer
      rw [step?_opening outer b skipped named, step?_opening outer b skipped' longer]
      exact (extends_opened m rest).map fun inner => Sum.inl (b :: outer, inner)
    · rw [named] at longer
      rw [step?_named outer b skipped named, step?_named outer b skipped' longer]
      exact .map_same _ (fun s => Sum.inl (outer, b.add s 0)) (.inl rfl)
  by_cases alone : rest.head? = some c → operator? c = none
  · have alone' : (rest ++ [')']).head? = some c → operator? c = none := by
      cases rest with
      | nil =>
        rintro ⟨⟩
        rfl
      | cons d rest => exact alone
    rw [step?_part outer b skipped closing opening alone,
      step?_part outer b skipped' closing opening alone']
    exact (extends_range? m (c :: rest)).map fun s => Sum.inl (outer, b.add s 0)
  · push Not at alone
    obtain ⟨same, operator⟩ := alone
    obtain ⟨op, operator⟩ := Option.ne_none_iff_exists'.1 operator
    rcases rest with _ | ⟨d, rest⟩
    · cases same
    obtain rfl : d = c := Option.some.inj same
    rw [step?_operator outer b skipped operator, step?_operator outer b skipped' operator]
    exact .some _ (.inl rfl)

theorem rest?_nil (m : Mode) (outer : List Brackets) (b : Brackets) : rest? m outer b [] = none := by
  rw [rest?]
  rfl

theorem extends_rest? (m : Mode) (outer : List Brackets) (b : Brackets) (cs : List Char) :
    Extends Leaves (rest? m outer b cs) (rest? m outer b (cs ++ [')'])) := by
  fun_induction rest? m outer b cs with
  | case1 => exact .none _
  | case2 outer b cs s rest stepped =>
    obtain ⟨longer, stepped', leaves⟩ := extends_step? m outer b cs _ _ stepped
    rw [rest?, stepped']
    exact .some _ leaves
  | case3 outer b cs outer' b' rest stepped shorter ih =>
    obtain ⟨longer, stepped', followed | ⟨rfl, -⟩⟩ := extends_step? m outer b cs _ _ stepped
    · obtain rfl := followed
      rw [rest?.eq_def m outer b (cs ++ [')']), stepped']
      dsimp only
      rw [if_pos (by simpa using shorter)]
      exact ih
    · rw [rest?_nil]
      exact .none _
  | case4 => exact .none _

theorem extends_read? (m : Mode) (cs : List Char) :
    Extends Leaves (read? m cs) (read? m (cs ++ [')'])) := by
  rcases start : opened m cs with ⟨b, rest⟩
  obtain ⟨longer, start', followed | ⟨rfl, -⟩⟩ := extends_opened m cs b rest (congrArg some start)
  · rw [read?, read?, start, Option.some.inj start', followed]
    exact extends_rest? m [] b rest
  · rw [read?, start]
    dsimp only
    rw [rest?_nil]
    exact .none _

end Brackets

end Reprint.Pattern
