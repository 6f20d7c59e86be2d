import Reprint.Proofs.Parse.Spans
import Reprint.Proofs.Style.Token
import Reprint.Style.Sheet

/-!
# Where the errors of style sheets are

Every reader takes tokens from the front of what is left, or fails at one of the tokens
that are left or at the end of the sheet.  `Careful` says so of one reader, and each reader
has a lemma for it, in the order of the definitions.  None of the readers finds fault with
what the text is made of: that comes before them.

So reading a sheet ends with all tokens read, statement by statement, or with an error at
a place of the text (`ofSheet_located`).
-/

namespace Reprint

/-- A span lies in a text and cuts no character of it. -/
structure Span.Within (source : String) (s : Span) : Prop where
  forward : s.start ≤ s.stop
  inside : s.stop ≤ Text.width source.toList
  start : Text.IsBoundary source s.start
  stop : Text.IsBoundary source s.stop

theorem Span.within_end (source : String) : Span.Within source (.point (Text.width source.toList)) where
  forward := le_rfl
  inside := le_rfl
  start := ⟨source.toList, [], (List.append_nil _).symm, rfl⟩
  stop := ⟨source.toList, [], (List.append_nil _).symm, rfl⟩

/-- The span of a part of a text. -/
theorem Span.within_of_append {source : String} {before part after : List Char}
    (split : source.toList = before ++ part ++ after) :
    Span.Within source ⟨Text.width before, Text.width before + Text.width part⟩ where
  forward := Nat.le_add_right _ _
  inside := by
    rw [split, Text.width_append, Text.width_append]
    exact Nat.le_add_right _ _
  start := ⟨before, part ++ after, by rw [split, List.append_assoc], rfl⟩
  stop := ⟨before ++ part, after, split, (Text.width_append _ _).symm⟩

/-- The tokens of a text lie in it, and so does the first piece of it that is no token. -/
theorem Token.within_of_lexFrom {source : String} {before cs : List Char}
    (split : source.toList = before ++ cs) :
    (∀ ts, lexFrom (Text.width before) cs = .ok ts → ∀ t ∈ ts, t.span.Within source) ∧
    ∀ e, lexFrom (Text.width before) cs = .error e → e.fault = .invalidToken ∧ e.span.Within source := by
  induction size : cs.length using Nat.strongRecOn generalizing before cs with
  | ind n ih =>
    subst size
    cases cs with
    | nil =>
      rw [lexFrom]
      constructor
      · rintro _ ⟨⟩
        exact List.forall_mem_nil _
      · rintro _ ⟨⟩
    | cons c cs =>
      rw [lexFrom]
      obtain ⟨piece, more⟩ := firstPiece c cs
      have text : source.toList = before ++ (c :: cs.take more) ++ cs.drop more := by
        rw [split, List.append_assoc, List.cons_append, List.take_append_drop]
      have own := Span.within_of_append text
      have shorter : (cs.drop more).length < (c :: cs).length := by
        rw [List.length_drop, List.length_cons]
        omega
      have behind := ih _ shorter text rfl
      rw [Text.width_append] at behind
      dsimp only
      cases piece with
      | gap => exact behind
      | invalid =>
        constructor
        · rintro _ ⟨⟩
        · rintro _ ⟨⟩
          exact ⟨rfl, own⟩
      | token kind =>
        cases lexed : lexFrom (Text.width before + Text.width (c :: cs.take more)) (cs.drop more) with
        | error e =>
          constructor
          · rintro _ ⟨⟩
          · rintro _ ⟨⟩
            exact behind.2 e lexed
        | ok rest =>
          constructor
          · rintro _ ⟨⟩
            exact List.forall_mem_cons.2 ⟨own, behind.1 rest lexed⟩
          · rintro _ ⟨⟩

namespace Sheet

/-! ## Readers that are careful -/

/-- An error of a reader stands at one of the tokens or at the end. -/
def Located (stop : SheetEnd) (ts : List Token) (e : StyleError) : Prop :=
  e.fault ≠ .invalidToken ∧ (e.span = .point stop ∨ ∃ t ∈ ts, e.span = t.span)

variable {α β : Type} {stop : SheetEnd} {ts ts' : List Token} {left : α → List Token}
  {left' : β → List Token} {x : Except StyleError α} {f : α → Except StyleError β}

theorem Located.mono {e : StyleError} (located : Located stop ts' e) (part : ts' <:+ ts) :
    Located stop ts e := by
  obtain ⟨read, there | ⟨t, member, there⟩⟩ := located
  · exact ⟨read, .inl there⟩
  · exact ⟨read, .inr ⟨t, part.subset member, there⟩⟩

/-- What a reader leaves is the end of what there was, and its errors are located. -/
def Careful (stop : SheetEnd) (ts : List Token) (left : α → List Token) (x : Except StyleError α) : Prop :=
  match x with
  | .ok a => left a <:+ ts
  | .error e => Located stop ts e

namespace Careful

theorem mono (careful : Careful stop ts' left x) (part : ts' <:+ ts) : Careful stop ts left x := by
  cases x with
  | ok a => exact careful.trans part
  | error e => exact Located.mono careful part

/-- A reader that goes on behind a token. -/
theorem behind {t : Token} (careful : Careful stop ts left x) : Careful stop (t :: ts) left x :=
  careful.mono (List.suffix_cons t ts)

/-- What counts as left may be less. -/
theorem less {fewer : α → List Token} (careful : Careful stop ts left x)
    (part : ∀ a, fewer a <:+ left a) : Careful stop ts fewer x := by
  cases x with
  | ok a => exact (part a).trans careful
  | error e => exact careful

/-- One reader after another. -/
theorem bind (first : Careful stop ts left x) (next : ∀ a, Careful stop (left a) left' (f a)) :
    Careful stop ts left' (x >>= f) := by
  cases x with
  | error e => exact first
  | ok a => exact (next a).mono first

end Careful

/-! ## Single tokens -/

theorem located_at {t : Token} {fault : StyleFault} (read : fault ≠ .invalidToken) :
    Located stop (t :: ts) ⟨fault, t.span⟩ :=
  ⟨read, .inr ⟨t, List.mem_cons_self, rfl⟩⟩

theorem located_unexpected (expected : String) (ts : List Token) :
    Located stop ts (unexpected stop expected ts) := by
  cases ts with
  | nil => exact ⟨nofun, .inl rfl⟩
  | cons t rest => exact located_at nofun

/-- The token that was expected is the one before what is left. -/
theorem careful_expect_value (kind : TokenKind) (ts : List Token) :
    Careful stop ts (fun r => r.value :: r.rest) (expect stop kind ts) := by
  cases ts with
  | nil => exact located_unexpected _ _
  | cons t rest =>
    unfold expect
    dsimp only
    split_ifs
    · exact List.suffix_rfl
    · exact located_unexpected _ _

theorem careful_expect (kind : TokenKind) (ts : List Token) :
    Careful stop ts Read.rest (expect stop kind ts) :=
  (careful_expect_value kind ts).less fun r => List.suffix_cons r.value r.rest

theorem careful_expectWord (word : String) (ts : List Token) :
    Careful stop ts Read.rest (expectWord stop word ts) := by
  cases ts with
  | nil => exact located_unexpected _ _
  | cons t rest =>
    unfold expectWord
    dsimp only
    split_ifs
    · exact List.suffix_cons t rest
    · exact located_unexpected _ _

theorem skip_suffix (kind : TokenKind) (ts : List Token) : (skip kind ts).rest <:+ ts := by
  cases ts with
  | nil => exact List.suffix_rfl
  | cons t rest =>
    unfold skip
    dsimp only
    split_ifs
    · exact List.suffix_cons t rest
    · exact List.suffix_rfl

theorem skipWord_suffix (word : String) (ts : List Token) : (skipWord word ts).rest <:+ ts := by
  cases ts with
  | nil => exact List.suffix_rfl
  | cons t rest =>
    unfold skipWord
    dsimp only
    split_ifs
    · exact List.suffix_cons t rest
    · exact List.suffix_rfl

/-- A number is read off the token in front of what is left. -/
theorem careful_numberOf (t : Token) (rest : List Token) :
    Careful stop (t :: rest) (fun _ => rest) (numberOf t) := by
  unfold numberOf
  dsimp only
  split_ifs
  · exact List.suffix_cons t rest
  · exact located_at nofun

theorem careful_number (ts : List Token) : Careful stop ts Read.rest (number stop ts) := by
  refine .bind (careful_expect_value .number ts) ?_
  rintro ⟨t, rest, h⟩
  refine .bind (careful_numberOf t rest) fun n => ?_
  exact List.suffix_rfl

/-! ## Spacing -/

theorem careful_blankLines (ts : List Token) : Careful stop ts ReadAny.rest (blankLines stop ts) := by
  have opened := skip_suffix .leftParen ts
  unfold blankLines
  dsimp only
  split_ifs
  · refine .mono ?_ opened
    refine .bind (careful_number _) ?_
    rintro ⟨n, rest, h⟩
    refine .bind (careful_expect .rightParen rest) ?_
    rintro ⟨_, rest, h⟩
    exact List.suffix_rfl
  · exact opened

theorem careful_quotedText (ts : List Token) : Careful stop ts ReadAny.rest (quotedText stop ts) := by
  refine .bind (careful_expect .leftParen ts) ?_
  rintro ⟨_, rest, h⟩
  refine .bind (careful_expect .string rest) ?_
  rintro ⟨t, rest, h⟩
  refine .bind (careful_expect .rightParen rest) ?_
  rintro ⟨_, rest, h⟩
  exact List.suffix_rfl

theorem careful_amount (ts : List Token) : Careful stop ts ReadAny.rest (amount stop ts) := by
  cases ts with
  | nil => exact List.suffix_rfl
  | cons t rest =>
    unfold amount
    dsimp only
    split_ifs
    · refine .bind (careful_numberOf t rest) fun n => ?_
      refine .bind (careful_expect .comma rest) ?_
      rintro ⟨_, rest, h⟩
      exact List.suffix_rfl
    · exact List.suffix_rfl

mutual

theorem careful_spacing (ts : List Token) : Careful stop ts Read.rest (spacing stop ts) := by
  cases ts with
  | nil =>
    rw [spacing]
    exact located_unexpected _ _
  | cons t rest =>
    rw [spacing]
    split_ifs
    · exact located_unexpected _ _
    · split
      · exact List.suffix_cons t rest
      · refine .bind (careful_compound t rest) ?_
        rintro ⟨d, rest, h⟩
        exact List.suffix_rfl
termination_by (ts.length, 0)

/-- An unknown word is the one before what is left. -/
theorem careful_compound (t : Token) (ts : List Token) :
    Careful stop (t :: ts) ReadAny.rest (compound stop t ts) := by
  rw [compound]
  split
  · exact (careful_blankLines ts).behind
  · exact (careful_quotedText ts).behind
  · refine .behind (.bind (careful_expect .leftParen ts) ?_)
    rintro ⟨_, rest, h₁⟩
    refine .bind (careful_expect .leftBracket rest) ?_
    rintro ⟨_, rest, h₂⟩
    refine .bind (careful_spacings rest) ?_
    rintro ⟨ds, rest, h₃⟩
    refine .bind (careful_expect .rightParen rest) ?_
    rintro ⟨_, rest, h₄⟩
    exact List.suffix_rfl
  · refine .behind (.bind (careful_expect .leftParen ts) ?_)
    rintro ⟨_, rest, h₁⟩
    refine .bind (careful_spacing rest) ?_
    rintro ⟨d, rest, h₂⟩
    refine .bind (careful_expect .rightParen rest) ?_
    rintro ⟨_, rest, h₃⟩
    exact List.suffix_rfl
  · refine .behind (.bind (careful_expect .leftParen ts) ?_)
    rintro ⟨_, rest, h₁⟩
    refine .bind (careful_amount rest) ?_
    rintro ⟨n, rest, h₂⟩
    refine .bind (careful_spacing rest) ?_
    rintro ⟨d, rest, h₃⟩
    refine .bind (careful_expect .rightParen rest) ?_
    rintro ⟨_, rest, h₄⟩
    exact List.suffix_rfl
  · refine .behind (.bind (careful_expect .leftParen ts) ?_)
    rintro ⟨_, rest, h₁⟩
    refine .bind (careful_spacing rest) ?_
    rintro ⟨separator, rest, h₂⟩
    refine .bind (careful_expect .comma rest) ?_
    rintro ⟨_, rest, h₃⟩
    refine .bind (careful_expect .leftBracket rest) ?_
    rintro ⟨_, rest, h₄⟩
    refine .bind (careful_spacings rest) ?_
    rintro ⟨ds, rest, h₅⟩
    refine .bind (careful_expect .rightParen rest) ?_
    rintro ⟨_, rest, h₆⟩
    exact List.suffix_rfl
  · exact located_at nofun
termination_by (ts.length, 1)

theorem careful_spacings (ts : List Token) : Careful stop ts Read.rest (spacings stop ts) := by
  have first : Careful stop ts Read.rest (spacing stop ts) := careful_spacing ts
  cases ts with
  | nil =>
    rw [spacings]
    exact located_unexpected _ _
  | cons t tail =>
    rw [spacings]
    split_ifs
    · exact List.suffix_cons t tail
    · refine .bind first ?_
      rintro ⟨d, rest, h₁⟩
      have h₁ : rest.length < tail.length + 1 := h₁
      have comma := skip_suffix .comma rest
      have shorter := (skip .comma rest).noLonger
      dsimp only
      split_ifs
      · refine .mono ?_ comma
        refine .bind (careful_spacings _) ?_
        rintro ⟨ds, rest, h₃⟩
        exact List.suffix_rfl
      · refine .mono ?_ comma
        refine .bind (careful_expect .rightBracket _) ?_
        rintro ⟨_, rest, h₃⟩
        exact List.suffix_rfl
termination_by (ts.length, 1)

end

/-! ## Selectors and ranges -/

theorem careful_selector (ts : List Token) : Careful stop ts Read.rest (selector stop ts) := by
  cases ts with
  | nil => exact located_unexpected _ _
  | cons t rest =>
    unfold selector
    dsimp only
    split
    · exact List.suffix_cons t rest
    · exact located_unexpected _ _

theorem skipSide_suffix (word : String) (ts : List Token) : (skipSide word ts).rest <:+ ts := by
  obtain _ | ⟨t, _ | ⟨u, rest⟩⟩ := ts
  · exact List.suffix_rfl
  · exact List.suffix_rfl
  · unfold skipSide
    dsimp only
    split_ifs
    · exact List.suffix_cons t (u :: rest)
    · exact List.suffix_rfl

theorem careful_rangeEnd (word exclude : String) (inside outside : Side) (whole : Anchor)
    (ts : List Token) :
    Careful stop ts ReadAny.rest (rangeEnd stop word exclude inside outside whole ts) := by
  have given := skipWord_suffix word ts
  have excluded := skipSide_suffix exclude (skipWord word ts).rest
  unfold rangeEnd
  dsimp only
  split
  · refine .mono ?_ (excluded.trans given)
    refine .bind (careful_selector _) ?_
    rintro ⟨s, rest, h⟩
    exact List.suffix_rfl
  · exact given

theorem careful_range (ts : List Token) : Careful stop ts ReadAny.rest (range stop ts) := by
  refine .bind (careful_rangeEnd _ _ _ _ _ ts) ?_
  rintro ⟨first, rest, h₁⟩
  refine .bind (careful_rangeEnd _ _ _ _ _ rest) ?_
  rintro ⟨last, rest, h₂⟩
  exact List.suffix_rfl

/-! ## Statements -/

theorem careful_spacingBlock (ts : List Token) : Careful stop ts Read.rest (spacingBlock stop ts) := by
  cases ts with
  | nil =>
    rw [spacingBlock]
    exact located_unexpected _ _
  | cons t tail =>
    rw [spacingBlock]
    split_ifs
    · exact List.suffix_cons t tail
    · refine .bind (careful_spacing (t :: tail)) ?_
      rintro ⟨d, rest, h₁⟩
      have h₁ : rest.length < tail.length + 1 := h₁
      refine .bind (careful_expect .semicolon rest) ?_
      rintro ⟨_, rest, h₂⟩
      refine .bind (careful_spacingBlock rest) ?_
      rintro ⟨ds, rest, h₃⟩
      exact List.suffix_rfl
termination_by ts.length

theorem careful_names (ts : List Token) : Careful stop ts ReadAny.rest (names stop ts) := by
  cases ts with
  | nil =>
    rw [names]
    exact List.suffix_rfl
  | cons t rest =>
    rw [names]
    split_ifs
    · refine .behind (.bind (careful_expect .word rest) ?_)
      rintro ⟨name, rest, h₁⟩
      refine .bind (careful_names rest) ?_
      rintro ⟨more, rest, h₂⟩
      exact List.suffix_rfl
    · exact List.suffix_rfl
termination_by ts.length

theorem careful_retention (ts : List Token) : Careful stop ts Read.rest (retention stop ts) := by
  cases ts with
  | nil => exact located_unexpected _ _
  | cons t rest =>
    unfold retention
    dsimp only
    split_ifs
    · exact List.suffix_cons t rest
    · exact List.suffix_cons t rest
    · refine .bind (careful_expect .word (t :: rest)) ?_
      rintro ⟨first, rest, h₁⟩
      refine .bind (careful_names rest) ?_
      rintro ⟨more, rest, h₂⟩
      exact List.suffix_rfl

theorem careful_ended (r : ReadAny α ts) (commands : α → List Command) :
    Careful stop r.rest ReadAny.rest (ended stop r commands) := by
  refine .bind (careful_expect .semicolon r.rest) ?_
  rintro ⟨_, rest, h⟩
  exact List.suffix_rfl

theorem careful_spacingStatement (scope : Scope) (side : Side) (ts : List Token) :
    Careful stop ts ReadAny.rest (spacingStatement stop scope side ts) := by
  refine .bind (careful_selector ts) ?_
  rintro ⟨s, rest, h₁⟩
  refine .bind (careful_expect .leftBrace rest) ?_
  rintro ⟨_, rest, h₂⟩
  refine .bind (careful_spacingBlock rest) ?_
  rintro ⟨ds, rest, h₃⟩
  exact List.suffix_rfl

theorem careful_nestAmount (ts : List Token) : Careful stop ts ReadAny.rest (nestAmount ts) := by
  cases ts with
  | nil => exact List.suffix_rfl
  | cons t rest =>
    unfold nestAmount
    dsimp only
    split_ifs
    · refine .bind (careful_numberOf t rest) fun n => ?_
      exact List.suffix_rfl
    · exact List.suffix_rfl

/-- An unknown statement, or one that has no place, is the word before what is left. -/
theorem careful_statementRest (scope : Scope) (t : Token) (ts : List Token) :
    Careful stop (t :: ts) ReadAny.rest (statementRest stop scope t ts) := by
  rw [statementRest]
  -- One case for each first word, in the order of the definition.
  split
  · refine .behind (.bind (careful_expect .colon ts) ?_)
    rintro ⟨_, rest, h₁⟩
    refine .bind (careful_spacing rest) ?_
    rintro ⟨d, rest, h₂⟩
    exact careful_ended _ _
  · refine .behind (.bind (careful_expect .colon ts) ?_)
    rintro ⟨_, rest, h₁⟩
    refine .bind (careful_spacing rest) ?_
    rintro ⟨d, rest, h₂⟩
    exact careful_ended _ _
  · exact (careful_spacingStatement scope .after ts).behind
  · exact (careful_spacingStatement scope .before ts).behind
  · refine .behind (.bind (careful_selector ts) ?_)
    rintro ⟨s, rest, h₁⟩
    exact careful_ended _ _
  · refine .behind (.bind (careful_selector ts) ?_)
    rintro ⟨s, rest, h₁⟩
    refine .bind (careful_expectWord "as" rest) ?_
    rintro ⟨_, rest, h₂⟩
    refine .bind (careful_spacing rest) ?_
    rintro ⟨d, rest, h₃⟩
    exact careful_ended _ _
  · refine .behind (.bind (careful_range ts) ?_)
    rintro ⟨ends, rest, h₁⟩
    exact careful_ended _ _
  · refine .behind (.bind (careful_nestAmount ts) ?_)
    rintro ⟨n, rest, h₁⟩
    refine .bind (careful_range rest) ?_
    rintro ⟨ends, rest, h₂⟩
    exact careful_ended _ _
  · refine .behind (.bind (careful_range ts) ?_)
    rintro ⟨ends, rest, h₁⟩
    refine .bind (careful_spacing rest) ?_
    rintro ⟨d, rest, h₂⟩
    exact careful_ended _ _
  · split_ifs
    · exact located_at nofun
    · refine .behind (.bind (careful_retention ts) ?_)
      rintro ⟨r, rest, h₁⟩
      exact careful_ended _ _
  · exact located_at nofun
  · exact located_at nofun

theorem careful_statement (scope : Scope) (ts : List Token) :
    Careful stop ts Read.rest (statement stop scope ts) := by
  cases ts with
  | nil => exact located_unexpected _ _
  | cons t rest =>
    unfold statement
    dsimp only
    split_ifs
    · exact located_unexpected _ _
    · refine .bind (careful_statementRest scope t rest) ?_
      rintro ⟨commands, rest, h⟩
      exact List.suffix_rfl

/-! ## Blocks and sheets -/

theorem careful_block (rule : String) (ts : List Token) :
    Careful stop ts ReadAny.rest (block stop rule ts) := by
  cases ts with
  | nil =>
    rw [block]
    exact List.suffix_rfl
  | cons t rest =>
    rw [block]
    split_ifs
    · exact List.suffix_rfl
    · refine .bind (careful_statement (some rule) (t :: rest)) ?_
      rintro ⟨commands, rest, h₁⟩
      refine .bind (careful_block rule rest) ?_
      rintro ⟨more, rest, h₂⟩
      exact List.suffix_rfl
termination_by ts.length
decreasing_by
  subst_vars
  exact h₁

theorem careful_ruleBlock (ts : List Token) : Careful stop ts ReadAny.rest (ruleBlock stop ts) := by
  refine .bind (careful_expect .word ts) ?_
  rintro ⟨name, rest, h₁⟩
  refine .bind (careful_expect .leftBrace rest) ?_
  rintro ⟨_, rest, h₂⟩
  refine .bind (careful_block name.text rest) ?_
  rintro ⟨commands, rest, h₃⟩
  refine .bind (careful_expect .rightBrace rest) ?_
  rintro ⟨_, rest, h₄⟩
  exact List.suffix_rfl

/-- All tokens are read for the commands: statement by statement, each of them taken from
the front of what those before it left. -/
inductive ReadWhole (stop : SheetEnd) : List Token → List Command → Prop
  | nil : ReadWhole stop [] []
  | statement {ts : List Token} {r : Read (List Command) ts} {more : List Command} :
      statement stop none ts = .ok r → r.rest <:+ ts → ReadWhole stop r.rest more →
        ReadWhole stop ts (r.value ++ more)
  | rule {t : Token} {ts : List Token} {r : ReadAny (List Command) ts} {more : List Command} :
      t.isWord "rule" → ruleBlock stop ts = .ok r → r.rest <:+ ts → ReadWhole stop r.rest more →
        ReadWhole stop (t :: ts) (r.value ++ more)

/-- A list of statements ends with all tokens read or with a located error. -/
def Ends (stop : SheetEnd) (ts : List Token) (x : Except StyleError (List Command)) : Prop :=
  match x with
  | .ok commands => ReadWhole stop ts commands
  | .error e => Located stop ts e

/-- The statements behind others, which have left the end of the tokens. -/
theorem Ends.behind {commands : List Command} {x : Except StyleError (List Command)}
    (ends : Ends stop ts' x) (part : ts' <:+ ts)
    (go : ∀ more, ReadWhole stop ts' more → ReadWhole stop ts (commands ++ more)) :
    Ends stop ts (do return commands ++ (← x)) := by
  cases x with
  | ok more => exact go more ends
  | error e => exact Located.mono ends part

theorem ends_statements (ts : List Token) : Ends stop ts (statements stop ts) := by
  cases ts with
  | nil =>
    rw [statements]
    exact .nil
  | cons t tail =>
    rw [statements]
    split_ifs with rule
    · have careful : Careful stop tail ReadAny.rest (ruleBlock stop tail) := careful_ruleBlock tail
      cases read : ruleBlock stop tail with
      | error e =>
        rw [read] at careful
        exact Located.mono careful (List.suffix_cons t tail)
      | ok r =>
        rw [read] at careful
        have shorter := r.noLonger
        exact (ends_statements r.rest).behind (careful.trans (List.suffix_cons t tail))
          fun more whole => .rule rule read careful whole
    · have careful : Careful stop (t :: tail) Read.rest (statement stop none (t :: tail)) :=
        careful_statement none (t :: tail)
      cases read : statement stop none (t :: tail) with
      | error e =>
        rw [read] at careful
        exact careful
      | ok r =>
        rw [read] at careful
        have shorter := r.shorter
        exact (ends_statements r.rest).behind careful fun more whole => .statement read careful whole
termination_by ts.length
decreasing_by
  · subst_vars
    exact Nat.lt_succ_of_le shorter
  · subst_vars
    exact shorter

end Sheet

/-! ## Whole sheets -/

/-- Reading a text within the limit ends with all tokens read, or with an error that lies in
the text: a piece of it that is no token, or one of the tokens, or the end of the text.  The
text is at fault itself if and only if it does not divide into tokens, wherever else the
statements are wrong. -/
theorem Style.ofSheet_located (source : String) (within : Text.width source.toList ≤ Span.limit) :
    ((∃ ts commands, Token.lex source = .ok ts ∧
        Sheet.ReadWhole (Text.width source.toList) ts commands ∧
        ofSheet source = .ok (runAll {} commands)) ∨
      ∃ e, ofSheet source = .error e ∧ e.span.Within source ∧
        (e.fault = .invalidToken ∨ ∃ ts, Token.lex source = .ok ts ∧
          (e.span = .point (Text.width source.toList) ∨ ∃ t ∈ ts, e.span = t.span))) ∧
    ((∃ span, ofSheet source = .error ⟨.invalidToken, span⟩) ↔
      ¬ ∃ faces, Token.Lexes source.toList faces) := by
  have short : Token.lex source = Token.lexFrom 0 source.toList := if_neg (Nat.not_lt.2 within)
  have whole : source.toList = [] ++ source.toList := rfl
  obtain ⟨tokens, invalid⟩ := Token.within_of_lexFrom whole
  unfold ofSheet Sheet.commands
  cases lexed : Token.lexFrom 0 source.toList with
  | error e =>
    obtain ⟨fault, inside⟩ := invalid e lexed
    rw [short, lexed]
    refine ⟨.inr ⟨e, rfl, inside, .inl fault⟩, fun _ => ?_, fun _ => ?_⟩
    · rintro ⟨faces, lexes⟩
      obtain ⟨ts, read, -⟩ := lexes.exists_lexFrom 0
      rw [lexed] at read
      cases read
    · obtain ⟨_, span⟩ := e
      obtain rfl := fault
      exact ⟨span, rfl⟩
  | ok ts =>
    have lexes : ∃ faces, Token.Lexes source.toList faces := ⟨_, Token.lexes_of_lexFrom lexed⟩
    have ends : Sheet.Ends (Text.width source.toList) ts _ := Sheet.ends_statements ts
    rw [short, lexed]
    simp only [bind, Except.bind]
    cases read : Sheet.statements (Text.width source.toList) ts with
    | ok commands =>
      rw [read] at ends
      refine ⟨.inl ⟨ts, commands, rfl, ends, rfl⟩, ?_, fun none => absurd lexes none⟩
      rintro ⟨span, ⟨⟩⟩
    | error e =>
      rw [read] at ends
      obtain ⟨fault, there⟩ := ends
      have inside : e.span.Within source := by
        obtain there | ⟨t, member, there⟩ := there
        · rw [there]
          exact Span.within_end source
        · rw [there]
          exact tokens ts lexed t member
      refine ⟨.inr ⟨e, rfl, inside, .inr ⟨ts, rfl, there⟩⟩, ?_, fun none => absurd lexes none⟩
      rintro ⟨span, ⟨⟩⟩
      exact absurd rfl fault

/-- A character that no token begins with is found behind a brace that has no place.  Where a
semicolon is missing, the error stands at the end. -/
theorem Style.ofSheet_located_invalid :
    (ofSheet "\x7d é" = .error ⟨.invalidToken, 2, 4⟩ ∧ Span.Within "\x7d é" ⟨2, 4⟩ ∧
      ¬ ∃ faces, Token.Lexes "\x7d é".toList faces) ∧
    ofSheet "omit x" = .error ⟨.unexpected "`;`" "end of input", .point 6⟩ ∧
      ∃ faces, Token.Lexes "omit x".toList faces := by
  have invalid : ofSheet "\x7d é" = .error ⟨.invalidToken, 2, 4⟩ := by with_unfolding_all rfl
  have unended : ofSheet "omit x" = .error ⟨.unexpected "`;`" "end of input", .point 6⟩ := by
    with_unfolding_all rfl
  obtain ⟨outcome, lexes⟩ := ofSheet_located "\x7d é" (by decide)
  obtain ⟨-, lexes'⟩ := ofSheet_located "omit x" (by decide)
  refine ⟨⟨invalid, ?_, lexes.1 ⟨_, invalid⟩⟩, unended, ?_⟩
  · obtain ⟨_, _, -, -, read⟩ | ⟨e, read, inside, -⟩ := outcome
    · rw [invalid] at read
      cases read
    · rw [invalid] at read
      obtain rfl := Except.error.inj read
      exact inside
  · by_contra none
    obtain ⟨span, read⟩ := lexes'.2 none
    rw [unended] at read
    cases read

end Reprint
