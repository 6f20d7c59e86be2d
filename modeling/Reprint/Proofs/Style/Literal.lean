import Reprint.Proofs.Style.Division

/-!
# Literals in sheets

Between quotes a backslash stands in front of each quote and each backslash, and nothing
else is changed.  What is read back is the text itself: behind a backslash that was put
there, a quote or a backslash follows, so none of the other escapes comes about.

So there is a sheet for every literal, however it is spelled, that leaves it out and does
nothing else (`ofSheet_quoted`).
-/

namespace Reprint

namespace Token

/-- A character as it stands between quotes. -/
def escapeChar (c : Char) : List Char := if c = '"' ∨ c = '\\' then ['\\', c] else [c]

/-- A text between quotes. -/
def quoted (text : String) : String := .ofList ('"' :: (text.toList.flatMap escapeChar ++ ['"']))

theorem toList_quoted (text : String) :
    (quoted text).toList = '"' :: (text.toList.flatMap escapeChar ++ ['"']) := String.toList_ofList

theorem quotable_escaped (cs : List Char) : Quotable (cs.flatMap escapeChar) := by
  induction cs with
  | nil => exact .nil
  | cons c cs ih =>
    rw [List.flatMap_cons, escapeChar]
    split_ifs with special
    · refine .escape ?_ ih
      obtain rfl | rfl := special <;> decide
    · rw [not_or] at special
      exact .plain special.1 special.2 ih

theorem unescape_cons {c : Char} (slash : c ≠ '\\') (cs : List Char) :
    unescape (c :: cs) = c :: unescape cs := by
  rw [unescape]
  · exact fun same _ => slash same
  · exact fun _ _ same _ => slash same

theorem unescape_escaped (cs : List Char) : unescape (cs.flatMap escapeChar) = cs := by
  induction cs with
  | nil => rfl
  | cons c cs ih =>
    rw [List.flatMap_cons, escapeChar]
    split_ifs with special
    · obtain rfl | rfl := special <;> exact congrArg _ ih
    · rw [not_or] at special
      rw [List.singleton_append, unescape_cons special.2, ih]

theorem writes_quoted (text : String) : TokenKind.string.Writes (quoted text).toList :=
  ⟨_, quotable_escaped text.toList, toList_quoted text⟩

/-- What stands between the quotes stands for the text. -/
theorem content_quoted (text : String) (span : Span) : content ⟨.string, quoted text, span⟩ = text := by
  rw [content, toList_quoted, List.drop_one, List.tail_cons, List.dropLast_concat, unescape_escaped,
    String.ofList_toList]

/-- A text between quotes is one token, whatever stands behind it. -/
theorem lexFrom_quoted (text : String) (behind : List Char) (offset : Nat) :
    lexFrom offset ((quoted text).toList ++ behind) =
      (lexFrom (offset + Text.width (quoted text).toList) behind).map
        (⟨.string, quoted text, offset, offset + Text.width (quoted text).toList⟩ :: ·) :=
  lexFrom_writes (writes_quoted text) (fun _ _ => rfl) offset

theorem lex_omit (text : String) (within : Text.width ("omit " ++ quoted text ++ ";").toList ≤ Span.limit) :
    ∃ first own last, lex ("omit " ++ quoted text ++ ";") =
      .ok [⟨.word, "omit", first⟩, ⟨.string, quoted text, own⟩, ⟨.semicolon, ";", last⟩] := by
  have chars : ("omit " ++ quoted text ++ ";").toList =
      "omit".toList ++ ([' '] ++ ((quoted text).toList ++ (";".toList ++ []))) := by
    simp only [String.toList_append, List.append_assoc, List.append_nil]
    rfl
  have word : TokenKind.word.Writes "omit".toList :=
    ⟨'o', ['m', 'i', 't'], rfl, rfl, List.all_eq_true.1 rfl⟩
  have ended : Ended .word ([' '] ++ ((quoted text).toList ++ (";".toList ++ []))) := by
    rintro _ ⟨⟩
    rfl
  have blank : Gap [' '] ((quoted text).toList ++ (";".toList ++ [])) := .blank rfl .nil
  have semicolon : TokenKind.semicolon.Writes ";".toList := ⟨';', rfl, rfl⟩
  unfold lex
  rw [if_neg (Nat.not_lt.2 within), chars, lexFrom_writes word ended, lexFrom_gap blank, lexFrom_quoted,
    lexFrom_writes semicolon (fun _ _ => rfl), lexFrom]
  exact ⟨_, _, _, rfl⟩

theorem lexFrom_text (text : String) {offset : Nat} {behind : List Char} {rest : List Token}
    (lexed : lexFrom (offset + Text.width ("text(" ++ quoted text ++ ")").toList) behind = .ok rest) :
    ∃ first opening own closing, lexFrom offset (("text(" ++ quoted text ++ ")").toList ++ behind) =
      .ok (⟨.word, "text", first⟩ :: ⟨.leftParen, "(", opening⟩ :: ⟨.string, quoted text, own⟩ ::
        ⟨.rightParen, ")", closing⟩ :: rest) := by
  have chars : ("text(" ++ quoted text ++ ")").toList =
      "text".toList ++ ("(".toList ++ ((quoted text).toList ++ ")".toList)) := by
    simp only [String.toList_append, List.append_assoc]
    rfl
  have word : TokenKind.word.Writes "text".toList :=
    ⟨'t', ['e', 'x', 't'], rfl, rfl, List.all_eq_true.1 rfl⟩
  have ended : Ended .word ("(".toList ++ ((quoted text).toList ++ (")".toList ++ behind))) := by
    rintro _ ⟨⟩
    rfl
  have opening : TokenKind.leftParen.Writes "(".toList := ⟨'(', rfl, rfl⟩
  have closing : TokenKind.rightParen.Writes ")".toList := ⟨')', rfl, rfl⟩
  simp only [chars, List.append_assoc, Text.width_append, ← Nat.add_assoc] at lexed ⊢
  rw [lexFrom_writes word ended, lexFrom_writes opening (fun _ _ => rfl), lexFrom_quoted,
    lexFrom_writes closing (fun _ _ => rfl), lexed]
  exact ⟨_, _, _, _, rfl⟩

end Token

/-! ## Readers -/

namespace Sheet

theorem selector_string {stop : SheetEnd} {t : Token} (string : t.kind = .string) (rest : List Token) :
    selector stop (t :: rest) = .ok ⟨.literal t.content, rest, Nat.lt_succ_self _⟩ := by
  simp only [selector, selectorOf?, string]

theorem statements_omit {stop : SheetEnd} {t : Token} (string : t.kind = .string) (first last : Span) :
    statements stop [⟨.word, "omit", first⟩, t, ⟨.semicolon, ";", last⟩] =
      .ok [.treat none ⟨.before, .literal t.content⟩ .omitted] := by
  have read : statement stop none [⟨.word, "omit", first⟩, t, ⟨.semicolon, ";", last⟩] =
      .ok ⟨[.treat none ⟨.before, .literal t.content⟩ .omitted], [], by simp⟩ := by
    simp only [statement, statementRest, selector_string string, ended]
    rfl
  have other : ¬ (⟨.word, "omit", first⟩ : Token).isWord "rule" := by simp [Token.isWord]
  rw [statements, if_neg other, read]
  simp only [bind, Except.bind]
  rw [statements]
  rfl

theorem spacing_text {stop : SheetEnd} {t : Token} (string : t.kind = .string) (first opening closing : Span)
    (rest : List Token) :
    ∃ shorter, spacing stop
        (⟨.word, "text", first⟩ :: ⟨.leftParen, "(", opening⟩ :: t :: ⟨.rightParen, ")", closing⟩ :: rest) =
      .ok ⟨.text t.content, rest, shorter⟩ := by
  have read : quotedText stop (⟨.leftParen, "(", opening⟩ :: t :: ⟨.rightParen, ")", closing⟩ :: rest) =
      .ok ⟨.text t.content, rest, by simp only [List.length_cons]; omega⟩ := by
    simp only [quotedText, expect_cons, bind, Except.bind, expect_cons string]
    rfl
  refine ⟨by simp only [List.length_cons]; omega, ?_⟩
  rw [spacing]
  simp only [compound, read]
  rfl

end Sheet

namespace Style

/-- The style that leaves out the literals with a certain text. -/
def omitting (text : String) : Style where
  anchors := [(⟨.before, .literal text⟩, { treatment := some .omitted })]

theorem entryAt_omitting (text rule : String) (anchor : Anchor) :
    (omitting text).entryAt rule anchor =
      if anchor = ⟨.before, .literal text⟩ then { treatment := some .omitted } else {} := by
  unfold entryAt entry? omitting Table.get?
  rw [List.lookup_cons]
  split_ifs with same
  · subst same
    simp
  · have other : (anchor == ⟨.before, .literal text⟩) = false := beq_false_of_ne same
    simp only [other]
    rfl

theorem ofSheet_omit (text : String)
    (within : Text.width ("omit " ++ Token.quoted text ++ ";").toList ≤ Span.limit) :
    ofSheet ("omit " ++ Token.quoted text ++ ";") = .ok (omitting text) := by
  obtain ⟨first, own, last, lexed⟩ := Token.lex_omit text within
  have read := @Sheet.statements_omit (Text.width ("omit " ++ Token.quoted text ++ ";").toList)
    ⟨.string, Token.quoted text, own⟩ rfl first last
  rw [Token.content_quoted] at read
  unfold ofSheet Sheet.commands
  rw [lexed]
  simp only [bind, Except.bind, read]
  rfl

/-- Every text can be written in a sheet.  Between quotes it is one token, which stands for
the text.  A sheet that leaves out what is written so leaves out the literals with this text
and does nothing else.  And in a spacing expression it is the text, whatever stands behind. -/
theorem ofSheet_quoted (text : String) :
    (Text.width (Token.quoted text).toList ≤ Span.limit →
      ∃ t, Token.lex (Token.quoted text) = .ok [t] ∧ t.kind = .string ∧ t.content = text) ∧
    (Text.width ("omit " ++ Token.quoted text ++ ";").toList ≤ Span.limit →
      ofSheet ("omit " ++ Token.quoted text ++ ";") = .ok (omitting text)) ∧
    (∀ rule anchor, (omitting text).entryAt rule anchor =
      if anchor = ⟨.before, .literal text⟩ then { treatment := some .omitted } else {}) ∧
    ∀ (stop offset : Nat) (behind : List Char) (rest : List Token),
      Token.lexFrom (offset + Text.width ("text(" ++ Token.quoted text ++ ")").toList) behind = .ok rest →
      ∃ ts shorter, Token.lexFrom offset (("text(" ++ Token.quoted text ++ ")").toList ++ behind) = .ok ts ∧
        Sheet.spacing stop ts = .ok ⟨.text text, rest, shorter⟩ := by
  refine ⟨fun within => ?_, ofSheet_omit text, entryAt_omitting text, ?_⟩
  · have lexed := Token.lexFrom_quoted text [] 0
    rw [List.append_nil, Token.lexFrom] at lexed
    unfold Token.lex
    rw [if_neg (Nat.not_lt.2 within), lexed]
    exact ⟨_, rfl, rfl, Token.content_quoted text _⟩
  · intro stop offset behind rest lexed
    obtain ⟨first, opening, own, closing, lexed⟩ := Token.lexFrom_text text lexed
    obtain ⟨shorter, read⟩ :=
      @Sheet.spacing_text stop ⟨.string, Token.quoted text, own⟩ rfl first opening closing rest
    rw [Token.content_quoted] at read
    exact ⟨_, shorter, lexed, read⟩

/-- A backslash, a quote and a line end as a literal. -/
theorem ofSheet_quoted_special :
    Token.quoted "\\\"\n" = "\"\\\\\\\"\n\"" ∧
    (∃ t, Token.lex (Token.quoted "\\\"\n") = .ok [t] ∧ t.kind = .string ∧ t.content = "\\\"\n") ∧
    ofSheet ("omit " ++ Token.quoted "\\\"\n" ++ ";") = .ok (omitting "\\\"\n") ∧
    ∃ ts shorter,
      Token.lexFrom 0 (("text(" ++ Token.quoted "\\\"\n" ++ ")").toList ++ [';']) = .ok ts ∧
      Sheet.spacing 14 ts = .ok ⟨.text "\\\"\n", [⟨.semicolon, ";", 13, 14⟩], shorter⟩ := by
  obtain ⟨single, omitted, -, spacing⟩ := ofSheet_quoted "\\\"\n"
  exact ⟨by decide, single (by decide), omitted (by decide),
    spacing 14 0 [';'] _ (by with_unfolding_all rfl)⟩

end Style

end Reprint
