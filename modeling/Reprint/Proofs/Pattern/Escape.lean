import Mathlib.Data.Prod.Basic
import Mathlib.Tactic.SplitIfs
import Reprint.Pattern

/-!
# A parenthesis behind an escape

Reading a pattern looks ahead, but what it takes does not depend on a closing
parenthesis behind the text: the same is read, and the parenthesis is behind
what is left.  Only a comment at the end of the text takes the parenthesis with
it.  This is `Extends`; it is put together along the readers, here of gaps and
escapes.
-/

namespace Reprint.Pattern

/-! ## What is left of a longer text -/

/-- The rest of a text that goes on with a closing parenthesis: it goes on too. -/
def Followed (rest longer : List Char) : Prop := longer = rest ++ [')']

/-- The same, or there is none because a comment at the end of the text has
taken the parenthesis. -/
def Leaves (rest longer : List Char) : Prop := Followed rest longer ∨ rest = [] ∧ longer = []

theorem Leaves.followed {rest longer : List Char} (leaves : Leaves rest longer)
    (left : rest ≠ []) : Followed rest longer := by
  obtain followed | ⟨ended, -⟩ := leaves
  · exact followed
  · exact absurd ended left

/-- What is read from a text is read from a longer one too; `R` relates the
rests. -/
def Extends {α : Type} (R : List Char → List Char → Prop) (short long : Option (α × List Char)) :
    Prop :=
  ∀ a rest, short = some (a, rest) → ∃ longer, long = some (a, longer) ∧ R rest longer

namespace Extends

variable {α β : Type} {R S : List Char → List Char → Prop}

theorem none (long : Option (α × List Char)) : Extends R .none long := by
  rintro a rest ⟨⟩

theorem some (a : α) {rest longer : List Char} (related : R rest longer) :
    Extends R (.some (a, rest)) (.some (a, longer)) := by
  rintro a' rest' ⟨⟩
  exact ⟨longer, rfl, related⟩

theorem bind {short long : Option (α × List Char)} {f g : α × List Char → Option (β × List Char)}
    (first : Extends R short long)
    (second : ∀ a rest longer, R rest longer → Extends S (f (a, rest)) (g (a, longer))) :
    Extends S (short.bind f) (long.bind g) := by
  intro b rest read
  obtain ⟨⟨a, rest'⟩, taken, read⟩ := Option.bind_eq_some_iff.1 read
  obtain ⟨longer, taken', related⟩ := first a rest' taken
  rw [taken']
  exact second a rest' longer related b rest read

theorem bind_same {o : Option α} {f g : α → Option (β × List Char)}
    (second : ∀ a, Extends R (f a) (g a)) : Extends R (o.bind f) (o.bind g) := by
  cases o with
  | none => exact none _
  | some a => exact second a

theorem map {short long : Option (α × List Char)} (f : α → β) (first : Extends R short long) :
    Extends R (short.map fun x => (f x.1, x.2)) (long.map fun x => (f x.1, x.2)) := by
  rw [Option.map_eq_bind, Option.map_eq_bind]
  exact first.bind fun a rest longer related => some (f a) related

theorem map_same (o : Option α) (f : α → β) {rest longer : List Char} (related : R rest longer) :
    Extends R (o.map fun a => (f a, rest)) (o.map fun a => (f a, longer)) := by
  cases o with
  | none => exact none _
  | some a => exact some (f a) related

theorem leaves {short long : Option (α × List Char)} (followed : Extends Followed short long) :
    Extends Leaves short long := by
  intro a rest read
  obtain ⟨longer, read', same⟩ := followed a rest read
  exact ⟨longer, read', .inl same⟩

end Extends

/-- A text that is parted behind a front is parted there in a longer one too. -/
theorem while_append {p : Char → Bool} {c : Char} {cs rest : List Char}
    (parted : cs.dropWhile p = c :: rest) (more : List Char) :
    (cs ++ more).takeWhile p = cs.takeWhile p ∧
      (cs ++ more).dropWhile p = c :: (rest ++ more) := by
  have whole : cs.takeWhile p ++ c :: rest = cs := parted ▸ List.takeWhile_append_dropWhile
  have shorter : (cs.takeWhile p).length ≠ cs.length := by
    intro same
    have := congrArg List.length whole
    simp [same] at this
  refine ⟨by rw [List.takeWhile_append, if_neg shorter], ?_⟩
  rw [List.dropWhile_append, parted]
  rfl

/-! ## Gaps -/

namespace Mode

variable {m : Mode} {p : Char → Bool} {cs taken rest : List Char}

/-- With more text behind, a span that ends before its text does is the same, and
one that takes all of it goes on, perhaps from within a comment. -/
theorem spanFrom_append {comment : Bool} (more : List Char)
    (spanned : m.spanFrom p comment cs = (taken, rest)) :
    rest ≠ [] ∧ m.spanFrom p comment (cs ++ more) = (taken, rest ++ more) ∨
      rest = [] ∧ ∃ comment', m.spanFrom p comment (cs ++ more) =
        (taken ++ (m.spanFrom p comment' more).1, (m.spanFrom p comment' more).2) := by
  induction cs generalizing comment taken with
  | nil =>
    obtain ⟨rfl, rfl⟩ := Prod.mk.inj spanned
    exact .inr ⟨rfl, comment, rfl⟩
  | cons c cs ih =>
    rw [spanFrom] at spanned
    rw [List.cons_append, spanFrom]
    split_ifs at spanned ⊢ with inside blank mark taking
    · exact ih spanned
    · exact ih spanned
    · exact ih spanned
    · obtain ⟨rfl, rfl⟩ := Prod.mk.inj spanned
      obtain ⟨left, same⟩ | ⟨ended, comment', same⟩ := ih (Prod.mk.eta).symm
      · exact .inl ⟨left, by rw [same]⟩
      · exact .inr ⟨ended, comment', by rw [same]; rfl⟩
    · obtain ⟨rfl, rfl⟩ := Prod.mk.inj spanned
      exact .inl ⟨List.cons_ne_nil _ _, rfl⟩

/-- A span that ends before its text does is the same in a longer one. -/
theorem span_append (spanned : m.span p cs = (taken, rest)) (left : rest ≠ []) :
    m.span p (cs ++ [')']) = (taken, rest ++ [')']) := by
  obtain ⟨-, same⟩ | ⟨ended, -⟩ := spanFrom_append [')'] spanned
  · exact same
  · exact absurd ended left

/-- A span that does not take parentheses leaves the one behind its text, unless
that stands in a comment. -/
theorem leaves_span (stops : p ')' = false) (spanned : m.span p cs = (taken, rest)) :
    ∃ longer, m.span p (cs ++ [')']) = (taken, longer) ∧ Leaves rest longer := by
  obtain ⟨-, same⟩ | ⟨rfl, comment, same⟩ := spanFrom_append [')'] spanned
  · exact ⟨_, same, .inl rfl⟩
  · have alone : m.spanFrom p comment [')'] = ([], if comment then [] else [')']) := by
      have letter : Text.isBlank ')' = false := by decide
      cases comment <;> simp [spanFrom, stops, letter]
    rw [alone, List.append_nil] at same
    refine ⟨_, same, ?_⟩
    cases comment
    · exact .inl rfl
    · exact .inr ⟨rfl, rfl⟩

theorem leaves_skip (m : Mode) (cs : List Char) : Leaves (m.skip cs) (m.skip (cs ++ [')'])) := by
  rcases spanned : m.span (fun _ => false) cs with ⟨taken, rest⟩
  obtain ⟨longer, spanned', leaves⟩ := leaves_span rfl spanned
  rwa [skip, skip, spanned, spanned']

theorem skip_append {c : Char} {cs' : List Char} (skipped : m.skip cs = c :: cs') :
    m.skip (cs ++ [')']) = c :: (cs' ++ [')']) := by
  have followed := (leaves_skip m cs).followed (by simp [skipped])
  rwa [skipped] at followed

theorem extends_taken? (m : Mode) (count : Nat) (cs : List Char) :
    Extends Followed (m.taken? count cs) (m.taken? count (cs ++ [')'])) := by
  induction count generalizing cs with
  | zero => exact .some [] rfl
  | succ count ih =>
    rw [taken?, taken?]
    cases skipped : m.skip cs with
    | nil => exact .none _
    | cons c cs' =>
      rw [skip_append skipped]
      exact (ih cs').map (c :: ·)

theorem dropBlanks_append (cs : List Char) :
    (cs ++ [')']).dropWhile Text.isBlank = cs.dropWhile Text.isBlank ++ [')'] := by
  rw [List.dropWhile_append]
  split
  · next ended =>
    rw [List.isEmpty_iff.1 ended]
    rfl
  · rfl

theorem peek_append (m : Mode) (cs : List Char) :
    m.peek (cs ++ [')']) = (m.peek cs).or (some ')') := by
  unfold peek
  split
  · rw [dropBlanks_append]
    cases same : cs.dropWhile Text.isBlank with
    | nil => rfl
    | cons c cs =>
      rw [List.cons_append]
      split
      · next longer =>
        obtain ⟨rfl, rfl⟩ := List.cons.inj longer
        simp [dropBlanks_append, List.head?_append]
      · next other =>
        split
        · next shorter =>
          obtain ⟨rfl, rfl⟩ := List.cons.inj shorter
          exact absurd rfl (other _)
        · rfl
  · exact List.head?_append

theorem peek_append_beq (m : Mode) (cs : List Char) {c : Char} (other : c ≠ ')') :
    (m.peek (cs ++ [')']) == some c) = (m.peek cs == some c) := by
  rw [peek_append]
  cases m.peek cs with
  | none => simpa using other.symm
  | some d => rfl

end Mode

/-! ## Escapes -/

namespace Escape

theorem extends_braced? (m : Mode) (cs : List Char) :
    Extends Followed (braced? m cs) (braced? m (cs ++ [')'])) := by
  unfold braced?
  split
  · next spanned =>
    rw [Mode.span_append spanned (List.cons_ne_nil _ _)]
    exact .some _ rfl
  · exact .none _

theorem extends_code? (m : Mode) (digits : Nat) (cs : List Char) :
    Extends Followed (code? m (digits + 1) cs) (code? m (digits + 1) (cs ++ [')'])) := by
  unfold code?
  cases skipped : m.skip cs with
  | nil => exact .none _
  | cons c cs' =>
    rw [Mode.skip_append skipped]
    by_cases brace : c = '\x7b'
    · subst brace
      refine (extends_braced? m cs').bind ?_
      rintro inner rest _ rfl
      dsimp only
      split_ifs
      · exact .none _
      · exact .bind_same fun c => .some _ rfl
    · simp only [List.cons.injEq, brace, false_and, imp_self, implies_true]
      refine (Mode.extends_taken? m (digits + 1) (c :: cs')).bind ?_
      rintro written rest _ rfl
      exact .bind_same fun c => .some _ rfl

theorem extends_ofProperty? (m : Mode) (negated : Bool) (cs : List Char) :
    Extends Followed (ofProperty? m negated cs) (ofProperty? m negated (cs ++ [')'])) := by
  have set (written : List Char) {rest longer : List Char} (followed : Followed rest longer) :
      Extends Followed
        ((property? written).bind fun s => if m.scripts then
          (m.negate? negated (m.widen s)).bind fun s => some (Escape.set s, rest) else none)
        ((property? written).bind fun s => if m.scripts then
          (m.negate? negated (m.widen s)).bind fun s => some (Escape.set s, longer) else none) := by
    refine .bind_same fun s => ?_
    split_ifs
    · exact .bind_same fun s => .some _ followed
    · exact .none _
  unfold ofProperty?
  cases skipped : m.skip cs with
  | nil => exact .none _
  | cons c cs' =>
    rw [Mode.skip_append skipped]
    by_cases brace : c = '\x7b'
    · subst brace
      exact (extends_braced? m cs').bind fun written rest longer => set written
    · simp only
      by_cases slash : (c == '\\') = true
      · rw [if_pos slash, if_pos slash]
        exact .none _
      · rw [if_neg slash, if_neg slash]
        exact set [c] rfl

theorem extends_boundary? (m : Mode) (cs : List Char) :
    Extends Followed (boundary? m cs) (boundary? m (cs ++ [')'])) := by
  rcases cs with _ | ⟨c, inner⟩
  · exact .some _ rfl
  rw [List.cons_append]
  by_cases brace : c = '\x7b'
  · subst brace
    simp only [boundary?]
    rcases spanned : m.span (fun c => c.isAlpha || c == '-') inner with ⟨name, rest⟩
    rcases rest with _ | ⟨c', rest⟩
    · cases name <;> exact .none _
    · rw [Mode.span_append spanned (List.cons_ne_nil _ _), List.cons_append]
      rcases name with _ | ⟨first, name⟩
      · exact .some _ rfl
      · by_cases last : c' = '\x7d'
        · subst last
          show Extends Followed ((namedBoundary? _).map fun p => (place m p, rest))
            ((namedBoundary? _).map fun p => (place m p, rest ++ [')']))
          exact .map_same _ _ rfl
        · simp [last, Extends.none]
  · have alone (rest : List Char) : boundary? m (c :: rest) = some (place m .edge, c :: rest) := by
      simp [boundary?, brace]
    rw [alone, alone]
    exact .some _ rfl

theorem extends_kind? (m : Mode) (all ascii : Text.Ranges) (negated : Bool) (cs : List Char) :
    Extends Followed (kind? m all ascii negated cs) (kind? m all ascii negated (cs ++ [')'])) := by
  exact .map_same _ _ rfl

theorem extends_read? (m : Mode) (cs : List Char) :
    Extends Followed (read? m cs) (read? m (cs ++ [')'])) := by
  cases cs with
  | nil => exact .none _
  | cons c cs =>
    unfold read?
    dsimp only [List.cons_append]
    split
    case h_24 =>
      split_ifs
      · exact .some _ rfl
      · exact .none _
    all_goals first
      | exact .some _ rfl
      | exact extends_code? m _ cs
      | exact extends_ofProperty? m _ cs
      | exact extends_kind? m _ _ _ cs
      | exact extends_boundary? m cs

end Escape

end Reprint.Pattern
