import Reprint.Proofs.Style.Token
import Reprint.Proofs.Style.Whole

/-!
# Readers look no further than what they read

A reader looks at the kinds and the texts of tokens, not at their offsets, and at most at
the token behind what it takes.  So it reads the same in a longer list of tokens: if a
reader succeeds on a list, and another list has the same tokens and then more, it takes
the same tokens there (`statement_transfers`).  Some readers have to see that
something follows, such as one that may take a parenthesis; they are always followed by
one that takes a token.
-/

namespace Reprint.Sheet

open Token (faces face kind_of_face text_of_face)

/-! ## Two computations -/

/-- What one computation gives, if it satisfies `P`, another one gives too, up to `R`. -/
def Transfers {α β : Type} (P : α → Prop) (R : α → β → Prop) (x : Except StyleError α)
    (x' : Except StyleError β) : Prop :=
  ∀ a, x = .ok a → P a → ∃ b, x' = .ok b ∧ R a b

/-- A condition that always holds. -/
abbrev always {α : Type} : α → Prop := fun _ => True

namespace Transfers

variable {α β γ δ : Type} {P : α → Prop} {R : α → β → Prop} {Q : γ → Prop} {S : γ → δ → Prop}
variable {x : Except StyleError α} {x' : Except StyleError β} {f : α → Except StyleError γ}
variable {f' : β → Except StyleError δ}

theorem ok {a : α} {b : β} (related : P a → R a b) : Transfers P R (.ok a) (.ok b) := by
  rintro _ ⟨⟩ holds
  exact ⟨b, rfl, related holds⟩

theorem error {e : StyleError} : Transfers P R (.error e) x' := nofun

/-- What the first computation gives may be taken for granted. -/
theorem given (transfers : ∀ a, x = .ok a → P a → Transfers P R x x') : Transfers P R x x' :=
  fun a given held => transfers a given held a given held

/-- One computation after another.  What the second one gives has to show that the first
one satisfied its condition. -/
theorem bind (first : Transfers P R x x') (holds : ∀ a c, f a = .ok c → Q c → P a)
    (next : ∀ a b, R a b → P a → Transfers Q S (f a) (f' b)) :
    Transfers Q S (x >>= f) (x' >>= f') := by
  intro c given held
  obtain ⟨a, first', given⟩ := exists_of_bind_eq_ok given
  have own := holds a c given held
  obtain ⟨b, second, related⟩ := first a first' own
  obtain ⟨d, third, related⟩ := next a b related own c given held
  exact ⟨d, by rw [second]; exact third, related⟩

theorem andThen (first : Transfers always R x x')
    (next : ∀ a b, R a b → Transfers Q S (f a) (f' b)) : Transfers Q S (x >>= f) (x' >>= f') :=
  bind first (fun _ _ _ _ => trivial) fun a b related _ => next a b related

theorem of_always (transfers : Transfers always R x x') : Transfers P R x x' :=
  fun a given _ => transfers a given trivial

end Transfers

/-! ## What readers leave -/

variable {behind : List (TokenKind × String)}

/-- A list with the same tokens as another, and then more. -/
def Further (behind : List (TokenKind × String)) (ts ts' : List Token) : Prop :=
  faces ts' = faces ts ++ behind

theorem Further.exists_cons {t : Token} {ts ts' : List Token} (further : Further behind (t :: ts) ts') :
    ∃ t' rest, ts' = t' :: rest ∧ t'.face = t.face ∧ Further behind ts rest := by
  obtain ⟨t', rest, rfl, same, rest'⟩ := List.map_eq_cons_iff.1 further
  exact ⟨t', rest, rfl, same, rest'⟩

variable {α : Type} {ts ts' : List Token}

/-- The same value was read in a longer list. -/
def Read.Again (behind : List (TokenKind × String)) (r : Read α ts) (r' : Read α ts') : Prop :=
  r'.value = r.value ∧ Further behind r.rest r'.rest

def ReadAny.Again (behind : List (TokenKind × String)) (r : ReadAny α ts) (r' : ReadAny α ts') : Prop :=
  r'.value = r.value ∧ Further behind r.rest r'.rest

/-- The same token was read in a longer list, but for its offset. -/
def Read.AgainToken (behind : List (TokenKind × String)) (r : Read Token ts) (r' : Read Token ts') :
    Prop :=
  r'.value.face = r.value.face ∧ Further behind r.rest r'.rest

theorem ne_nil_of_read {r : Read α ts} : ts ≠ [] := by
  rintro rfl
  exact absurd r.shorter (Nat.not_lt_zero _)

theorem ReadAny.ne_nil (r : ReadAny α ts) (more : r.rest ≠ []) : ts ≠ [] := by
  rintro rfl
  exact more (List.length_eq_zero_iff.1 (Nat.le_zero.1 r.noLonger))

/-- A reader that goes on with one that takes a token found one. -/
theorem ne_nil_of_bind {β : Type} {x : Except StyleError (Read α ts)}
    {f : Read α ts → Except StyleError β} {b : β} (given : (x >>= f) = .ok b) : ts ≠ [] := by
  obtain ⟨r, -, -⟩ := exists_of_bind_eq_ok given
  exact ne_nil_of_read (r := r)

/-! ## Single tokens -/

theorem isWord_of_face {t t' : Token} (same : t'.face = t.face) (word : String) :
    t'.isWord word = t.isWord word := by
  have kind := kind_of_face same
  have text := text_of_face same
  rw [Token.isWord, Token.isWord, kind, text]

theorem content_of_face {t t' : Token} (same : t'.face = t.face) : t'.content = t.content := by
  have text := text_of_face same
  rw [Token.content, Token.content, text]

theorem numberOf_transfers {t t' : Token} (same : t'.face = t.face) :
    Transfers always (fun n n' => n' = n) (numberOf t) (numberOf t') := by
  have text := text_of_face same
  unfold numberOf
  simp only [text]
  split_ifs
  · exact .ok fun _ => rfl
  · exact .error

theorem selectorOf?_of_face {t t' : Token} (same : t'.face = t.face) :
    selectorOf? t' = selectorOf? t := by
  have kind := kind_of_face same
  have text := text_of_face same
  rw [selectorOf?, selectorOf?, kind, text, content_of_face same]

section Readers

variable {stop stop' : SheetEnd} (further : Further behind ts ts')
include further

theorem expect_transfers (kind : TokenKind) :
    Transfers always (Read.AgainToken behind) (expect stop kind ts) (expect stop' kind ts') := by
  cases ts with
  | nil => exact .error
  | cons t rest =>
    obtain ⟨t', rest', rfl, same, further⟩ := further.exists_cons
    have kind' := kind_of_face same
    unfold expect
    simp only [kind']
    split_ifs
    · exact .ok fun _ => ⟨same, further⟩
    · exact .error

theorem expectWord_transfers (word : String) :
    Transfers always (Read.Again behind) (expectWord stop word ts) (expectWord stop' word ts') := by
  cases ts with
  | nil => exact .error
  | cons t rest =>
    obtain ⟨t', rest', rfl, same, further⟩ := further.exists_cons
    unfold expectWord
    simp only [isWord_of_face same]
    split_ifs
    · exact .ok fun _ => ⟨rfl, further⟩
    · exact .error

theorem skip_again (kind : TokenKind) (nonempty : ts ≠ []) :
    ReadAny.Again behind (skip kind ts) (skip kind ts') := by
  obtain ⟨t, rest, rfl⟩ := List.exists_cons_of_ne_nil nonempty
  have whole := further
  obtain ⟨t', rest', rfl, same, further⟩ := further.exists_cons
  have kind' := kind_of_face same
  unfold skip
  simp only [kind']
  split_ifs
  · exact ⟨rfl, further⟩
  · exact ⟨rfl, whole⟩

theorem skipWord_again (word : String) (nonempty : ts ≠ []) :
    ReadAny.Again behind (skipWord word ts) (skipWord word ts') := by
  obtain ⟨t, rest, rfl⟩ := List.exists_cons_of_ne_nil nonempty
  have whole := further
  obtain ⟨t', rest', rfl, same, further⟩ := further.exists_cons
  unfold skipWord
  simp only [isWord_of_face same]
  split_ifs
  · exact ⟨rfl, further⟩
  · exact ⟨rfl, whole⟩

theorem number_transfers :
    Transfers always (Read.Again behind) (number stop ts) (number stop' ts') := by
  refine .andThen (expect_transfers further .number) ?_
  rintro ⟨t, rest, h⟩ ⟨t', rest', h'⟩ ⟨same, further⟩
  refine .andThen (numberOf_transfers same) ?_
  rintro n _ rfl
  exact .ok fun _ => ⟨rfl, further⟩

/-! ## Spacing -/

theorem blankLines_transfers :
    Transfers (fun r => r.rest ≠ []) (ReadAny.Again behind) (blankLines stop ts)
      (blankLines stop' ts') := by
  refine .given fun r _ more => ?_
  obtain ⟨value, further⟩ := skip_again further .leftParen (r.ne_nil more)
  unfold blankLines
  simp only [value]
  split_ifs
  · refine .andThen (number_transfers further) ?_
    rintro ⟨n, rest, h⟩ ⟨_, rest', h'⟩ ⟨rfl, further⟩
    refine .andThen (expect_transfers further .rightParen) ?_
    rintro ⟨_, rest, h⟩ ⟨_, rest', h'⟩ ⟨_, further⟩
    exact .ok fun _ => ⟨rfl, further⟩
  · exact .ok fun _ => ⟨rfl, further⟩

theorem quotedText_transfers :
    Transfers always (ReadAny.Again behind) (quotedText stop ts) (quotedText stop' ts') := by
  refine .andThen (expect_transfers further .leftParen) ?_
  rintro ⟨_, rest, h⟩ ⟨_, rest', h'⟩ ⟨_, further⟩
  refine .andThen (expect_transfers further .string) ?_
  rintro ⟨t, rest, h⟩ ⟨t', rest', h'⟩ ⟨same, further⟩
  refine .andThen (expect_transfers further .rightParen) ?_
  rintro ⟨_, rest, h⟩ ⟨_, rest', h'⟩ ⟨_, further⟩
  exact .ok fun _ => ⟨congrArg Doc.text (content_of_face same), further⟩

theorem amount_transfers :
    Transfers (fun r => r.rest ≠ []) (ReadAny.Again behind) (amount stop ts) (amount stop' ts') := by
  refine .given fun r _ more => ?_
  obtain ⟨t, rest, rfl⟩ := List.exists_cons_of_ne_nil (r.ne_nil more)
  have whole := further
  obtain ⟨t', rest', rfl, same, further⟩ := further.exists_cons
  have kind := kind_of_face same
  unfold amount
  simp only [kind]
  split_ifs
  · refine .andThen (numberOf_transfers same) ?_
    rintro n _ rfl
    refine .andThen (expect_transfers further .comma) ?_
    rintro ⟨_, rest, h⟩ ⟨_, rest', h'⟩ ⟨_, further⟩
    exact .ok fun _ => ⟨rfl, further⟩
  · exact .ok fun _ => ⟨rfl, whole⟩

end Readers

section Spacing

variable {stop stop' : SheetEnd}

mutual

theorem spacing_transfers {ts ts' : List Token} (further : Further behind ts ts') :
    Transfers (fun r => r.rest ≠ []) (Read.Again behind) (spacing stop ts) (spacing stop' ts') := by
  cases ts with
  | nil =>
    rw [spacing]
    exact .error
  | cons t rest =>
    obtain ⟨t', rest', rfl, same, further⟩ := further.exists_cons
    have kind := kind_of_face same
    have text := text_of_face same
    rw [spacing, spacing, kind, text]
    split_ifs
    · exact .error
    · split
      · exact .ok fun _ => ⟨rfl, further⟩
      · refine .bind (compound_transfers same further) ?_ ?_
        · rintro ⟨d, rest, h⟩ c given more
          obtain rfl := Except.ok.inj given
          exact more
        · rintro ⟨d, rest, h⟩ ⟨_, rest', h'⟩ ⟨rfl, further⟩ _
          exact .ok fun _ => ⟨rfl, further⟩
termination_by (ts.length, 0)

theorem compound_transfers {t t' : Token} (same : t'.face = t.face) {ts ts' : List Token}
    (further : Further behind ts ts') :
    Transfers (fun r => r.rest ≠ []) (ReadAny.Again behind) (compound stop t ts)
      (compound stop' t' ts') := by
  have text := text_of_face same
  rw [compound, compound, text]
  split
  · exact blankLines_transfers further
  · exact (quotedText_transfers further).of_always
  · refine .andThen (expect_transfers further .leftParen) ?_
    rintro ⟨_, rest, h₁⟩ ⟨_, rest', _⟩ ⟨_, further⟩
    refine .andThen (expect_transfers further .leftBracket) ?_
    rintro ⟨_, rest, h₂⟩ ⟨_, rest', _⟩ ⟨_, further⟩
    refine .andThen (spacings_transfers further) ?_
    rintro ⟨ds, rest, h₃⟩ ⟨_, rest', _⟩ ⟨rfl, further⟩
    refine .andThen (expect_transfers further .rightParen) ?_
    rintro ⟨_, rest, h₄⟩ ⟨_, rest', _⟩ ⟨_, further⟩
    exact .ok fun _ => ⟨rfl, further⟩
  · refine .andThen (expect_transfers further .leftParen) ?_
    rintro ⟨_, rest, h₁⟩ ⟨_, rest', _⟩ ⟨_, further⟩
    refine .bind (spacing_transfers further) (fun _ _ given _ => ne_nil_of_bind given) ?_
    rintro ⟨d, rest, h₂⟩ ⟨_, rest', _⟩ ⟨rfl, further⟩ _
    refine .andThen (expect_transfers further .rightParen) ?_
    rintro ⟨_, rest, h₃⟩ ⟨_, rest', _⟩ ⟨_, further⟩
    exact .ok fun _ => ⟨rfl, further⟩
  · refine .andThen (expect_transfers further .leftParen) ?_
    rintro ⟨_, rest, h₁⟩ ⟨_, rest', _⟩ ⟨_, further⟩
    refine .bind (amount_transfers further) (fun _ _ given _ => ne_nil_of_bind given) ?_
    rintro ⟨n, rest, h₂⟩ ⟨_, rest', _⟩ ⟨rfl, further⟩ _
    refine .bind (spacing_transfers further) (fun _ _ given _ => ne_nil_of_bind given) ?_
    rintro ⟨d, rest, h₃⟩ ⟨_, rest', _⟩ ⟨rfl, further⟩ _
    refine .andThen (expect_transfers further .rightParen) ?_
    rintro ⟨_, rest, h₄⟩ ⟨_, rest', _⟩ ⟨_, further⟩
    exact .ok fun _ => ⟨rfl, further⟩
  · refine .andThen (expect_transfers further .leftParen) ?_
    rintro ⟨_, rest, h₁⟩ ⟨_, rest', _⟩ ⟨_, further⟩
    refine .bind (spacing_transfers further) (fun _ _ given _ => ne_nil_of_bind given) ?_
    rintro ⟨separator, rest, h₂⟩ ⟨_, rest', _⟩ ⟨rfl, further⟩ _
    refine .andThen (expect_transfers further .comma) ?_
    rintro ⟨_, rest, h₃⟩ ⟨_, rest', _⟩ ⟨_, further⟩
    refine .andThen (expect_transfers further .leftBracket) ?_
    rintro ⟨_, rest, h₄⟩ ⟨_, rest', _⟩ ⟨_, further⟩
    refine .andThen (spacings_transfers further) ?_
    rintro ⟨ds, rest, h₅⟩ ⟨_, rest', _⟩ ⟨rfl, further⟩
    refine .andThen (expect_transfers further .rightParen) ?_
    rintro ⟨_, rest, h₆⟩ ⟨_, rest', _⟩ ⟨_, further⟩
    exact .ok fun _ => ⟨rfl, further⟩
  · exact .error
termination_by (ts.length, 1)

theorem spacings_transfers {ts ts' : List Token} (further : Further behind ts ts') :
    Transfers always (Read.Again behind) (spacings stop ts) (spacings stop' ts') := by
  have first : Transfers _ (Read.Again behind) (spacing stop ts) (spacing stop' ts') :=
    spacing_transfers further
  cases ts with
  | nil =>
    rw [spacings]
    exact .error
  | cons t rest =>
    obtain ⟨t', rest', rfl, same, further⟩ := further.exists_cons
    have kind := kind_of_face same
    rw [spacings, spacings, kind]
    split_ifs
    · exact .ok fun _ => ⟨rfl, further⟩
    · refine .bind first ?_ ?_
      · rintro ⟨d, rest, h⟩ c given _ rfl
        cases given
      · rintro ⟨d, rest, h₁⟩ ⟨_, rest', _⟩ ⟨rfl, further⟩ nonempty
        obtain ⟨value, further⟩ := skip_again further .comma nonempty
        have shorter := (skip .comma rest).noLonger
        simp only [value]
        split_ifs
        · refine .andThen (spacings_transfers further) ?_
          rintro ⟨ds, rest, h₃⟩ ⟨_, rest', _⟩ ⟨rfl, further⟩
          exact .ok fun _ => ⟨rfl, further⟩
        · refine .andThen (expect_transfers further .rightBracket) ?_
          rintro ⟨_, rest, h₃⟩ ⟨_, rest', _⟩ ⟨_, further⟩
          exact .ok fun _ => ⟨rfl, further⟩
termination_by (ts.length, 1)

end

end Spacing

/-! ## Selectors and ranges -/

section Ranges

variable {stop stop' : SheetEnd} (further : Further behind ts ts')
include further

theorem selector_transfers :
    Transfers always (Read.Again behind) (selector stop ts) (selector stop' ts') := by
  cases ts with
  | nil => exact .error
  | cons t rest =>
    obtain ⟨t', rest', rfl, same, further⟩ := further.exists_cons
    unfold selector
    simp only [selectorOf?_of_face same]
    split
    · exact .ok fun _ => ⟨rfl, further⟩
    · exact .error

theorem skipSide_again (word : String) (two : 2 ≤ ts.length) :
    ReadAny.Again behind (skipSide word ts) (skipSide word ts') := by
  obtain _ | ⟨t, _ | ⟨u, rest⟩⟩ := ts
  · exact absurd two (by simp)
  · exact absurd two (by simp)
  have whole := further
  obtain ⟨t', rest', rfl, same, further⟩ := further.exists_cons
  have second := further
  obtain ⟨u', rest', rfl, same', further⟩ := further.exists_cons
  unfold skipSide
  simp only [isWord_of_face same, selectorOf?_of_face same']
  split_ifs
  · exact ⟨rfl, second⟩
  · exact ⟨rfl, whole⟩

theorem rangeEnd_transfers (word exclude : String) (inside outside : Side) (whole : Anchor) :
    Transfers (fun r => r.rest ≠ []) (ReadAny.Again behind)
      (rangeEnd stop word exclude inside outside whole ts)
      (rangeEnd stop' word exclude inside outside whole ts') := by
  refine .given fun r _ more => ?_
  obtain ⟨value, further⟩ := skipWord_again further word (r.ne_nil more)
  unfold rangeEnd
  simp only [value]
  by_cases given : (skipWord word ts).value
  · simp only [given, if_true]
    refine .given fun r read more => ?_
    -- The selector that is read behind the word leaves something.
    have two : 2 ≤ (skipWord word ts).rest.length := by
      obtain ⟨⟨s, rest, h⟩, -, read⟩ := exists_of_bind_eq_ok read
      obtain rfl := Except.ok.inj read
      have some : 0 < rest.length := List.length_pos_iff.2 more
      have := (skipSide exclude (skipWord word ts).rest).noLonger
      omega
    obtain ⟨value, further⟩ := skipSide_again further exclude two
    simp only [value]
    refine .of_always (.andThen (selector_transfers further) ?_)
    rintro ⟨s, rest, h⟩ ⟨_, rest', h'⟩ ⟨rfl, further⟩
    exact .ok fun _ => ⟨rfl, further⟩
  · simp only [given]
    exact .ok fun _ => ⟨rfl, further⟩

theorem range_transfers :
    Transfers (fun r => r.rest ≠ []) (ReadAny.Again behind) (range stop ts) (range stop' ts') := by
  refine .bind (rangeEnd_transfers further _ _ _ _ _) ?_ ?_
  · rintro ⟨first, rest, h⟩ c given more
    obtain ⟨r, -, given⟩ := exists_of_bind_eq_ok given
    obtain rfl := Except.ok.inj given
    exact r.ne_nil more
  · rintro ⟨first, rest, h⟩ ⟨_, rest', h'⟩ ⟨rfl, further⟩ _
    refine .bind (rangeEnd_transfers further _ _ _ _ _) ?_ ?_
    · rintro ⟨last, rest, h⟩ c given more
      obtain rfl := Except.ok.inj given
      exact more
    · rintro ⟨last, rest, h⟩ ⟨_, rest', h'⟩ ⟨rfl, further⟩ _
      exact .ok fun _ => ⟨rfl, further⟩

end Ranges

/-! ## Statements -/

section Statements

variable {stop stop' : SheetEnd}

theorem spacingBlock_transfers {ts ts' : List Token} (further : Further behind ts ts') :
    Transfers always (Read.Again behind) (spacingBlock stop ts) (spacingBlock stop' ts') := by
  have first : Transfers _ (Read.Again behind) (spacing stop ts) (spacing stop' ts') :=
    spacing_transfers further
  cases ts with
  | nil =>
    rw [spacingBlock]
    exact .error
  | cons t rest =>
    obtain ⟨t', rest', rfl, same, further⟩ := further.exists_cons
    have kind := kind_of_face same
    rw [spacingBlock, spacingBlock, kind]
    split_ifs
    · exact .ok fun _ => ⟨rfl, further⟩
    · refine .bind first (fun _ _ given _ => ne_nil_of_bind given) ?_
      rintro ⟨d, rest, h₁⟩ ⟨_, rest', _⟩ ⟨rfl, further⟩ _
      refine .andThen (expect_transfers further .semicolon) ?_
      rintro ⟨_, rest, h₂⟩ ⟨_, rest', _⟩ ⟨_, further⟩
      refine .andThen (spacingBlock_transfers further) ?_
      rintro ⟨ds, rest, h₃⟩ ⟨_, rest', _⟩ ⟨rfl, further⟩
      exact .ok fun _ => ⟨rfl, further⟩
termination_by ts.length

theorem names_transfers {ts ts' : List Token} (further : Further behind ts ts') :
    Transfers (fun r => r.rest ≠ []) (ReadAny.Again behind) (names stop ts) (names stop' ts') := by
  cases ts with
  | nil => exact .given fun r _ more => absurd rfl (r.ne_nil more)
  | cons t rest =>
    have whole := further
    obtain ⟨t', rest', rfl, same, further⟩ := further.exists_cons
    have kind := kind_of_face same
    rw [names, names, kind]
    split_ifs
    · refine .andThen (expect_transfers further .word) ?_
      rintro ⟨name, rest, h₁⟩ ⟨name', rest', _⟩ ⟨same, further⟩
      refine .bind (names_transfers further) ?_ ?_
      · rintro ⟨others, rest, h₂⟩ c given more
        obtain rfl := Except.ok.inj given
        exact more
      · rintro ⟨others, rest, h₂⟩ ⟨_, rest', _⟩ ⟨rfl, further⟩ _
        have text := text_of_face same
        exact .ok fun _ => ⟨congrArg (· :: _) text, further⟩
    · exact .ok fun _ => ⟨rfl, whole⟩
termination_by ts.length
decreasing_by
  subst_vars
  simp only [List.length_cons]
  omega

theorem retention_transfers {ts ts' : List Token} (further : Further behind ts ts') :
    Transfers (fun r => r.rest ≠ []) (Read.Again behind) (retention stop ts) (retention stop' ts') := by
  cases ts with
  | nil => exact .error
  | cons t rest =>
    have whole := further
    obtain ⟨t', rest', rfl, same, further⟩ := further.exists_cons
    unfold retention
    simp only [isWord_of_face same]
    split_ifs
    · exact .ok fun _ => ⟨rfl, further⟩
    · exact .ok fun _ => ⟨rfl, further⟩
    · refine .andThen (expect_transfers whole .word) ?_
      rintro ⟨name, rest, h₁⟩ ⟨name', rest', _⟩ ⟨same, further⟩
      refine .bind (names_transfers further) ?_ ?_
      · rintro ⟨others, rest, h₂⟩ c given more
        obtain rfl := Except.ok.inj given
        exact more
      · rintro ⟨others, rest, h₂⟩ ⟨_, rest', _⟩ ⟨rfl, further⟩ _
        have text := text_of_face same
        exact .ok fun _ => ⟨congrArg (fun name => Retention.only (name :: _)) text, further⟩

theorem ended_transfers {ts ts' rest rest' : List Token} (further : Further behind rest rest')
    {value : α} {noLonger : rest.length ≤ ts.length} {noLonger' : rest'.length ≤ ts'.length}
    (commands : α → List Command) :
    Transfers always (ReadAny.Again behind) (@ended stop α ts ⟨value, rest, noLonger⟩ commands)
      (@ended stop' α ts' ⟨value, rest', noLonger'⟩ commands) := by
  refine .andThen (expect_transfers further .semicolon) ?_
  rintro ⟨_, rest, h⟩ ⟨_, rest', h'⟩ ⟨_, further⟩
  exact .ok fun _ => ⟨rfl, further⟩

theorem spacingStatement_transfers {ts ts' : List Token} (further : Further behind ts ts')
    (scope : Scope) (side : Side) :
    Transfers always (ReadAny.Again behind) (spacingStatement stop scope side ts)
      (spacingStatement stop' scope side ts') := by
  refine .andThen (selector_transfers further) ?_
  rintro ⟨s, rest, h₁⟩ ⟨_, rest', _⟩ ⟨rfl, further⟩
  refine .andThen (expect_transfers further .leftBrace) ?_
  rintro ⟨_, rest, h₂⟩ ⟨_, rest', _⟩ ⟨_, further⟩
  refine .andThen (spacingBlock_transfers further) ?_
  rintro ⟨ds, rest, h₃⟩ ⟨_, rest', _⟩ ⟨rfl, further⟩
  exact .ok fun _ => ⟨rfl, further⟩

theorem nestAmount_transfers {ts ts' : List Token} (further : Further behind ts ts') :
    Transfers (fun r => r.rest ≠ []) (ReadAny.Again behind) (nestAmount ts) (nestAmount ts') := by
  cases ts with
  | nil => exact .given fun r _ more => absurd rfl (r.ne_nil more)
  | cons t rest =>
    have whole := further
    obtain ⟨t', rest', rfl, same, further⟩ := further.exists_cons
    have kind := kind_of_face same
    unfold nestAmount
    simp only [kind]
    split_ifs
    · refine .of_always (.andThen (numberOf_transfers same) ?_)
      rintro n _ rfl
      exact .ok fun _ => ⟨rfl, further⟩
    · exact .ok fun _ => ⟨rfl, whole⟩

theorem statementRest_transfers {t t' : Token} (same : t'.face = t.face) {ts ts' : List Token}
    (further : Further behind ts ts') (scope : Scope) :
    Transfers always (ReadAny.Again behind) (statementRest stop scope t ts)
      (statementRest stop' scope t' ts') := by
  have text := text_of_face same
  rw [statementRest, statementRest, text]
  -- One case for each first word, in the order of the definition.
  split
  · refine .andThen (expect_transfers further .colon) ?_
    rintro ⟨_, rest, h₁⟩ ⟨_, rest', _⟩ ⟨_, further⟩
    refine .bind (spacing_transfers further) (fun _ _ given _ => ne_nil_of_bind given) ?_
    rintro ⟨d, rest, h₂⟩ ⟨_, rest', _⟩ ⟨rfl, further⟩ _
    exact ended_transfers further _
  · refine .andThen (expect_transfers further .colon) ?_
    rintro ⟨_, rest, h₁⟩ ⟨_, rest', _⟩ ⟨_, further⟩
    refine .bind (spacing_transfers further) (fun _ _ given _ => ne_nil_of_bind given) ?_
    rintro ⟨d, rest, h₂⟩ ⟨_, rest', _⟩ ⟨rfl, further⟩ _
    exact ended_transfers further _
  · exact spacingStatement_transfers further scope .after
  · exact spacingStatement_transfers further scope .before
  · refine .andThen (selector_transfers further) ?_
    rintro ⟨s, rest, h₁⟩ ⟨_, rest', _⟩ ⟨rfl, further⟩
    exact ended_transfers further _
  · refine .andThen (selector_transfers further) ?_
    rintro ⟨s, rest, h₁⟩ ⟨_, rest', _⟩ ⟨rfl, further⟩
    refine .andThen (expectWord_transfers further "as") ?_
    rintro ⟨_, rest, h₂⟩ ⟨_, rest', _⟩ ⟨_, further⟩
    refine .bind (spacing_transfers further) (fun _ _ given _ => ne_nil_of_bind given) ?_
    rintro ⟨d, rest, h₃⟩ ⟨_, rest', _⟩ ⟨rfl, further⟩ _
    exact ended_transfers further _
  · refine .bind (range_transfers further) (fun _ _ given _ => ne_nil_of_bind given) ?_
    rintro ⟨ends, rest, h₁⟩ ⟨_, rest', _⟩ ⟨rfl, further⟩ _
    exact ended_transfers further _
  · refine .bind (nestAmount_transfers further) ?_ ?_
    · rintro ⟨n, rest, h₁⟩ c given _
      obtain ⟨ends, -, given⟩ := exists_of_bind_eq_ok given
      exact ends.ne_nil (ne_nil_of_bind given)
    · rintro ⟨n, rest, h₁⟩ ⟨_, rest', _⟩ ⟨rfl, further⟩ _
      refine .bind (range_transfers further) (fun _ _ given _ => ne_nil_of_bind given) ?_
      rintro ⟨ends, rest, h₂⟩ ⟨_, rest', _⟩ ⟨rfl, further⟩ _
      exact ended_transfers further _
  · refine .bind (range_transfers further) ?_ ?_
    · rintro ⟨ends, rest, h₁⟩ c given _
      exact ne_nil_of_bind given
    · rintro ⟨ends, rest, h₁⟩ ⟨_, rest', _⟩ ⟨rfl, further⟩ _
      refine .bind (spacing_transfers further) (fun _ _ given _ => ne_nil_of_bind given) ?_
      rintro ⟨d, rest, h₂⟩ ⟨_, rest', _⟩ ⟨rfl, further⟩ _
      exact ended_transfers further _
  · split_ifs
    · exact .error
    · refine .bind (retention_transfers further) (fun _ _ given _ => ne_nil_of_bind given) ?_
      rintro ⟨r, rest, h₁⟩ ⟨_, rest', _⟩ ⟨rfl, further⟩ _
      exact ended_transfers further _
  · exact .error
  · exact .error

theorem statement_transfers {ts ts' : List Token} (further : Further behind ts ts') (scope : Scope) :
    Transfers always (Read.Again behind) (statement stop scope ts) (statement stop' scope ts') := by
  cases ts with
  | nil => exact .error
  | cons t rest =>
    obtain ⟨t', rest', rfl, same, further⟩ := further.exists_cons
    have kind := kind_of_face same
    unfold statement
    simp only [kind]
    split_ifs
    · exact .error
    · refine .andThen (statementRest_transfers same further scope) ?_
      rintro ⟨commands, rest, h⟩ ⟨_, rest', _⟩ ⟨rfl, further⟩
      exact .ok fun _ => ⟨rfl, further⟩

/-! ## Blocks and sheets -/

/-- A block of statements that comes to its end is the same block in a longer list. -/
theorem block_transfers {ts ts' : List Token} (further : Further behind ts ts') (rule : String) :
    Transfers (fun r => r.rest ≠ []) (ReadAny.Again behind) (block stop rule ts)
      (block stop' rule ts') := by
  have first : Transfers _ (Read.Again behind) (statement stop (some rule) ts)
      (statement stop' (some rule) ts') := statement_transfers further (some rule)
  cases ts with
  | nil => exact .given fun r _ more => absurd rfl (r.ne_nil more)
  | cons t rest =>
    have whole := further
    obtain ⟨t', rest', rfl, same, further⟩ := further.exists_cons
    have kind := kind_of_face same
    rw [block, block, kind]
    split_ifs
    · exact .ok fun _ => ⟨rfl, whole⟩
    · refine .andThen first ?_
      rintro ⟨commands, rest, h₁⟩ ⟨_, rest', _⟩ ⟨rfl, further⟩
      refine .bind (block_transfers further rule) ?_ ?_
      · rintro ⟨others, rest, h₂⟩ c given more
        obtain rfl := Except.ok.inj given
        exact more
      · rintro ⟨others, rest, h₂⟩ ⟨_, rest', _⟩ ⟨rfl, further⟩ _
        exact .ok fun _ => ⟨rfl, further⟩
termination_by ts.length
decreasing_by
  subst_vars
  exact h₁

/-- Wherever they stand, tokens begin with a block of statements for a rule. -/
def ReadsBlock (rule : String) (fs : List (TokenKind × String)) (commands : List Command)
    (left : List (TokenKind × String)) : Prop :=
  ∀ (stop : SheetEnd) ts, faces ts = fs →
    ∃ r, block stop rule ts = .ok r ∧ r.value = commands ∧ faces r.rest = left

/-- The statements of a list that is used up, and then those of a list behind it, are
one block. -/
theorem block_append {rule : String} {more : List Command} {left : List (TokenKind × String)}
    (next : ReadsBlock rule behind more left) {ts ts' : List Token} (further : Further behind ts ts') :
    Transfers (fun r => r.rest = []) (fun r r' => r'.value = r.value ++ more ∧ faces r'.rest = left)
      (block stop rule ts) (block stop' rule ts') := by
  have first : Transfers _ (Read.Again behind) (statement stop (some rule) ts)
      (statement stop' (some rule) ts') := statement_transfers further (some rule)
  cases ts with
  | nil =>
    obtain ⟨r, given, value, rest⟩ := next stop' ts' further
    rw [block, given]
    exact .ok fun _ => ⟨value, rest⟩
  | cons t rest =>
    obtain ⟨t', rest', rfl, same, further⟩ := further.exists_cons
    have kind := kind_of_face same
    rw [block, block, kind]
    split_ifs
    · exact .ok fun used => absurd used (List.cons_ne_nil t rest)
    · refine .andThen first ?_
      rintro ⟨commands, rest, h₁⟩ ⟨_, rest', _⟩ ⟨rfl, further⟩
      refine .bind (block_append next further) ?_ ?_
      · rintro ⟨others, rest, h₂⟩ c given used
        obtain rfl := Except.ok.inj given
        exact used
      · rintro ⟨others, rest, h₂⟩ ⟨_, rest', _⟩ ⟨rfl, left⟩ _
        exact .ok fun _ => ⟨(List.append_assoc ..).symm, left⟩
termination_by ts.length
decreasing_by
  subst_vars
  exact h₁

theorem ruleBlock_transfers {ts ts' : List Token} (further : Further behind ts ts') :
    Transfers always (ReadAny.Again behind) (ruleBlock stop ts) (ruleBlock stop' ts') := by
  refine .andThen (expect_transfers further .word) ?_
  rintro ⟨name, rest, h₁⟩ ⟨name', rest', _⟩ ⟨same, further⟩
  have text := text_of_face same
  refine .andThen (expect_transfers further .leftBrace) ?_
  rintro ⟨_, rest, h₂⟩ ⟨_, rest', _⟩ ⟨_, further⟩
  dsimp only
  rw [text]
  refine .bind (block_transfers further name.text) (fun _ _ given _ => ne_nil_of_bind given) ?_
  rintro ⟨commands, rest, h₃⟩ ⟨_, rest', _⟩ ⟨rfl, further⟩ _
  refine .andThen (expect_transfers further .rightBrace) ?_
  rintro ⟨_, rest, h₄⟩ ⟨_, rest', _⟩ ⟨_, further⟩
  exact .ok fun _ => ⟨rfl, further⟩

/-- Wherever they stand, tokens are the statements of a sheet. -/
def ReadsSheet (fs : List (TokenKind × String)) (commands : List Command) : Prop :=
  ∀ (stop : SheetEnd) ts, faces ts = fs → statements stop ts = .ok commands

/-- The statements of a sheet, and then those of a sheet behind it, are one sheet. -/
theorem statements_append {more : List Command} (next : ReadsSheet behind more)
    {ts ts' : List Token} (further : Further behind ts ts') :
    Transfers always (fun commands commands' => commands' = commands ++ more) (statements stop ts)
      (statements stop' ts') := by
  have first : Transfers _ (Read.Again behind) (statement stop none ts) (statement stop' none ts') :=
    statement_transfers further none
  cases ts with
  | nil =>
    rw [statements, next stop' ts' further]
    exact .ok fun _ => rfl
  | cons t rest =>
    obtain ⟨t', rest', rfl, same, further⟩ := further.exists_cons
    rw [statements, statements, isWord_of_face same]
    split_ifs
    · refine .andThen (ruleBlock_transfers further) ?_
      rintro ⟨commands, rest, h₁⟩ ⟨_, rest', _⟩ ⟨rfl, further⟩
      refine .andThen (statements_append next further) ?_
      rintro others _ rfl
      exact .ok fun _ => (List.append_assoc ..).symm
    · refine .andThen first ?_
      rintro ⟨commands, rest, h₁⟩ ⟨_, rest', _⟩ ⟨rfl, further⟩
      refine .andThen (statements_append next further) ?_
      rintro others _ rfl
      exact .ok fun _ => (List.append_assoc ..).symm
termination_by ts.length
decreasing_by
  · subst_vars
    exact Nat.lt_succ_of_le h₁
  · subst_vars
    exact h₁

end Statements

end Reprint.Sheet
