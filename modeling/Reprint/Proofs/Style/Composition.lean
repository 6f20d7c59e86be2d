import Reprint.Proofs.Parse.Tiling
import Reprint.Proofs.Style.Reading

/-!
# Sheets that are put together

A sheet behind another one, with a line end between, means what its commands make of the
style of the first one: tokens do not reach across the line end, and readers do not look
behind what they read.  In the same way two blocks of statements for one rule mean what one
block with the statements of both means (`ofSheet_append`).
-/

namespace Reprint

/-! ## Texts and their tokens -/

namespace Token

/-- Whether a text is a word. -/
def IsName (text : String) : Prop :=
  ∃ c cs, text.toList = c :: cs ∧ isWordStart c ∧ cs.all isWordRest

/-- A text with its tokens, to be put in front of a text that begins with a blank. -/
def IsPart (seam : Char) (text : String) (fs : List (TokenKind × String)) : Prop :=
  Lexes text.toList fs ∧ Seams text.toList seam

theorem isPart_of_firstPiece {seam : Char} (gap : isGap seam) {text : String} {c : Char} {cs : List Char}
    {kind : TokenKind} (chars : text.toList = c :: cs)
    (piece : firstPiece c cs = (.token kind, cs.length)) : IsPart seam text [(kind, text)] := by
  have same : String.ofList (c :: cs.take cs.length) = text := by
    rw [List.take_length, ← chars, String.ofList_toList]
  have slash : (c == '/') = false := by
    by_contra slash
    rw [Bool.not_eq_false, beq_iff_eq] at slash
    subst slash
    have notGap : isGap '/' = false := rfl
    simp only [firstPiece, notGap, beq_self_eq_true, if_true, Bool.false_eq_true, if_false] at piece
    split at piece <;> cases piece
  constructor
  · have lexes := Lexes.token piece (by rw [List.drop_length]; exact .nil)
    rwa [same, ← chars] at lexes
  · refine ⟨gap, .inr ?_⟩
    rw [chars, endsInComment, piece, slash, List.drop_length, endsInComment]
    rfl

theorem not_isDigit_of_isWordStart {c : Char} (start : isWordStart c) : c.isDigit = false := by
  change (decide ('A'.val ≤ c.val ∧ c.val ≤ 'Z'.val) || ('a'.val ≤ c.val && c.val ≤ 'z'.val) || c == '_')
    = true at start
  simp only [Bool.or_eq_true, Bool.and_eq_true, decide_eq_true_eq, beq_iff_eq,
    UInt32.le_iff_toNat_le] at start
  simp only [Char.isDigit, Bool.and_eq_false_iff, decide_eq_false_iff_not, ge_iff_le,
    UInt32.le_iff_toNat_le]
  obtain (⟨low, -⟩ | ⟨low, -⟩) | rfl := start
  · have nine : '9'.val.toNat < 'A'.val.toNat := by decide
    omega
  · have nine : '9'.val.toNat < 'a'.val.toNat := by decide
    omega
  · decide

theorem isPart_of_isName {seam : Char} (gap : isGap seam) {name : String} (isName : IsName name) :
    IsPart seam name [(.word, name)] := by
  obtain ⟨c, cs, chars, start, rest⟩ := isName
  refine isPart_of_firstPiece gap chars ?_
  have notGap : isGap c = false := by
    by_contra gap
    simp only [isGap, Bool.not_eq_false, Bool.or_eq_true, beq_iff_eq] at gap
    obtain ((rfl | rfl) | rfl) | rfl := gap <;> exact absurd start (by decide)
  have notSlash : (c == '/') = false := by
    rw [beq_eq_false_iff_ne]
    rintro rfl
    exact absurd start (by decide)
  have all : cs.takeWhile isWordRest = cs := List.takeWhile_eq_self_iff.2 (List.all_eq_true.1 rest)
  unfold firstPiece
  simp only [notGap, notSlash, not_isDigit_of_isWordStart start, start, all, Bool.false_eq_true,
    if_false, if_true]

/-- Texts with a blank between any two of them have their tokens, one after the other. -/
theorem lexes_intercalate {seam : Char} {texts : List String} {parts : List (List (TokenKind × String))}
    (each : List.Forall₂ (IsPart seam) texts parts) :
    Lexes ((String.singleton seam).intercalate texts).toList parts.flatten := by
  induction each with
  | nil => exact .nil
  | cons first rest ih =>
    cases rest with
    | nil => simpa using first.1
    | cons second rest =>
      rw [String.intercalate_cons_cons, List.flatten_cons]
      simpa using first.1.append ih first.2

end Token

namespace Sheet

open Token (faces face Lexes Seams IsName IsPart)

/-! ## Tokens and their commands -/

variable {behind fs left : List (TokenKind × String)} {commands more : List Command} {rule : String}

theorem ReadsSheet.nil : ReadsSheet [] [] := by
  intro stop ts same
  rw [List.map_eq_nil_iff.1 same, statements]

theorem ReadsSheet.append {stop : SheetEnd} {ts : List Token} (read : statements stop ts = .ok commands)
    (next : ReadsSheet behind more) : ReadsSheet (faces ts ++ behind) (commands ++ more) := by
  intro stop' ts' same
  obtain ⟨_, read', rfl⟩ := statements_append next same commands read trivial
  exact read'

/-- A closing brace ends a block. -/
theorem ReadsBlock.brace (rule : String) (left : List (TokenKind × String)) :
    ReadsBlock rule ((.rightBrace, "\x7d") :: left) [] ((.rightBrace, "\x7d") :: left) := by
  intro stop ts same
  obtain ⟨t, rest, rfl, brace, -⟩ := List.map_eq_cons_iff.1 same
  have kind : t.kind = .rightBrace := congrArg Prod.fst brace
  rw [block, if_pos kind]
  exact ⟨_, rfl, rfl, same⟩

theorem ReadsBlock.append {stop : SheetEnd} {ts : List Token} {r : ReadAny (List Command) ts}
    (read : block stop rule ts = .ok r) (used : r.rest = []) (next : ReadsBlock rule behind more left) :
    ReadsBlock rule (faces ts ++ behind) (r.value ++ more) left := by
  intro stop' ts' same
  exact block_append next same r read used

theorem expect_cons {stop : SheetEnd} {t : Token} {kind : TokenKind} (same : t.kind = kind)
    (rest : List Token) : expect stop kind (t :: rest) = .ok ⟨t, rest, Nat.lt_succ_self _⟩ := by
  rw [expect, if_pos same]

/-- A block for a rule in a sheet. -/
theorem ReadsSheet.ruleBlock (inside : ReadsBlock rule fs commands ((.rightBrace, "\x7d") :: left))
    (next : ReadsSheet left more) :
    ReadsSheet ((.word, "rule") :: (.word, rule) :: (.leftBrace, "\x7b") :: fs) (commands ++ more) := by
  intro stop ts same
  obtain ⟨t, ts, rfl, word, same⟩ := List.map_eq_cons_iff.1 same
  obtain ⟨name, ts, rfl, named, same⟩ := List.map_eq_cons_iff.1 same
  obtain ⟨opening, ts, rfl, opened, same⟩ := List.map_eq_cons_iff.1 same
  obtain ⟨⟨commands, rest, h⟩, read, rfl, same⟩ := inside stop ts same
  obtain ⟨closing, rest, rfl, closed, same⟩ := List.map_eq_cons_iff.1 same
  simp only [face, Prod.mk.injEq] at word named opened closed
  have isRule : t.isWord "rule" := by simp [Token.isWord, word]
  rw [statements, if_pos isRule]
  simp only [Sheet.ruleBlock, expect_cons named.1, expect_cons opened.1, named.2, read,
    expect_cons closed.1, next stop rest same, bind, Except.bind, pure, Except.pure]

/-! ## Texts and their commands -/

theorem lexes_of_lex {source : String} {ts : List Token} (lexed : Token.lex source = .ok ts) :
    Lexes source.toList (faces ts) := by
  dsimp only [Token.lex] at lexed
  split_ifs at lexed
  exact Token.lexes_of_lexFrom lexed

/-- A text with the tokens of a sheet is that sheet. -/
theorem commands_of_lexes {source : String} (lexes : Lexes source.toList fs)
    (reads : ReadsSheet fs commands) (within : Text.width source.toList ≤ Span.limit) :
    Sheet.commands source = .ok commands := by
  obtain ⟨ts, lexed, same⟩ := lexes.exists_lexFrom 0
  have lexed' : Token.lex source = .ok ts := (if_neg (Nat.not_lt.2 within)).trans lexed
  unfold Sheet.commands
  rw [lexed']
  exact reads _ ts same

/-- Two sheets with a line end between them have the commands of both. -/
theorem commands_append {first second : String} (read : Sheet.commands first = .ok commands)
    (read' : Sheet.commands second = .ok more)
    (within : Text.width (first ++ "\n" ++ second).toList ≤ Span.limit) :
    Sheet.commands (first ++ "\n" ++ second) = .ok (commands ++ more) := by
  obtain ⟨ts, lexed, stated⟩ := exists_of_bind_eq_ok read
  obtain ⟨ts', lexed', stated'⟩ := exists_of_bind_eq_ok read'
  have lexes : Lexes (first.toList ++ '\n' :: second.toList) (faces ts ++ faces ts') :=
    (lexes_of_lex lexed).append (lexes_of_lex lexed') ⟨rfl, .inl rfl⟩
  have reads := ReadsSheet.append stated (.append stated' .nil)
  rw [List.append_nil, List.append_nil] at reads
  exact commands_of_lexes (by simpa using lexes) reads within

/-- A text of statements for a rule, as they stand in a block, with the commands they are. -/
def StatesFor (rule text : String) (commands : List Command) : Prop :=
  ∃ ts r, Token.lex text = .ok ts ∧ block (Text.width text.toList) rule ts = .ok r ∧
    r.value = commands ∧ r.rest = []

/-- Two blocks for a rule, with a blank between any two parts. -/
def apart (seam : Char) (rule one other : String) : String :=
  (String.singleton seam).intercalate
    ["rule", rule, "\x7b", one, "\x7d", "rule", rule, "\x7b", other, "\x7d"]

/-- One block for a rule with the statements of two, with a blank between any two parts. -/
def joint (seam : Char) (rule one other : String) : String :=
  (String.singleton seam).intercalate ["rule", rule, "\x7b", one, other, "\x7d"]

theorem width_joint_le (seam : Char) (rule one other : String) :
    Text.width (joint seam rule one other).toList ≤ Text.width (apart seam rule one other).toList := by
  simp only [joint, apart, String.intercalate_cons_cons, String.intercalate_singleton,
    String.toList_append, Text.width_append]
  omega

section Blocks

variable {one other : String} {seam : Char}

/-- Two blocks for a rule have the commands of both, and so has one block with the
statements of both. -/
theorem commands_blocks (isName : IsName rule) (stated : StatesFor rule one commands)
    (stated' : StatesFor rule other more) (seams : Seams one.toList seam)
    (seams' : Seams other.toList seam)
    (within : Text.width (apart seam rule one other).toList ≤ Span.limit) :
    Sheet.commands (apart seam rule one other) = .ok (commands ++ more) ∧
    Sheet.commands (joint seam rule one other) = .ok (commands ++ more) := by
  obtain ⟨ts, r, lexed, read, rfl, used⟩ := stated
  obtain ⟨ts', r', lexed', read', rfl, used'⟩ := stated'
  have word : IsPart seam "rule" _ :=
    Token.isPart_of_isName seams.1 ⟨'r', ['u', 'l', 'e'], rfl, rfl, rfl⟩
  have name : IsPart seam rule _ := Token.isPart_of_isName seams.1 isName
  have opening := @Token.isPart_of_firstPiece seam seams.1 "\x7b" '\x7b' [] .leftBrace rfl rfl
  have closing := @Token.isPart_of_firstPiece seam seams.1 "\x7d" '\x7d' [] .rightBrace rfl rfl
  have first : IsPart seam one _ := ⟨lexes_of_lex lexed, seams⟩
  have second : IsPart seam other _ := ⟨lexes_of_lex lexed', seams'⟩
  constructor
  -- What the tokens read as, and that the parts of the text have them, in the same order.
  · have reads := ReadsSheet.ruleBlock (.append read used (.brace rule _))
      (.ruleBlock (.append read' used' (.brace rule [])) .nil)
    have lexes := Token.lexes_intercalate <| .cons word <| .cons name <| .cons opening <| .cons first <|
      .cons closing <| .cons word <| .cons name <| .cons opening <| .cons second <| .cons closing .nil
    simp only [List.append_nil] at reads
    refine commands_of_lexes lexes ?_ within
    simpa using reads
  · have reads := ReadsSheet.ruleBlock (.append read used (.append read' used' (.brace rule []))) .nil
    have lexes := Token.lexes_intercalate <| .cons word <| .cons name <| .cons opening <| .cons first <|
      .cons second <| .cons closing .nil
    simp only [List.append_nil] at reads
    refine commands_of_lexes lexes ?_ ((width_joint_le ..).trans within)
    simpa using reads

end Blocks

end Sheet

namespace Style

theorem runAll_append (s : Style) (cs ds : List Command) :
    s.runAll (cs ++ ds) = (s.runAll cs).runAll ds :=
  List.foldl_append

/-- A sheet behind another one goes on with the style of the first one.  And two blocks for
a rule describe the style that one block with the statements of both describes.  Where the
statements end in a comment, a line end has to stand behind it. -/
theorem ofSheet_append :
    (∀ (first second : String) (style : Style) (commands : List Command),
      ofSheet first = .ok style → Sheet.commands second = .ok commands →
      Text.width (first ++ "\n" ++ second).toList ≤ Span.limit →
        ofSheet (first ++ "\n" ++ second) = .ok (style.runAll commands)) ∧
    ∀ (rule one other : String) (commands more : List Command) (seam : Char),
      Token.IsName rule → Sheet.StatesFor rule one commands → Sheet.StatesFor rule other more →
      Token.Seams one.toList seam → Token.Seams other.toList seam →
      Text.width (Sheet.apart seam rule one other).toList ≤ Span.limit →
        ofSheet (Sheet.apart seam rule one other) = .ok (runAll {} (commands ++ more)) ∧
        ofSheet (Sheet.joint seam rule one other) = ofSheet (Sheet.apart seam rule one other) := by
  constructor
  · intro first second style commands given read within
    obtain ⟨own, read', rfl⟩ : ∃ own, Sheet.commands first = .ok own ∧ runAll {} own = style := by
      unfold ofSheet at given
      cases read' : Sheet.commands first with
      | error e =>
        rw [read'] at given
        cases given
      | ok own =>
        rw [read'] at given
        exact ⟨own, rfl, Except.ok.inj given⟩
    rw [ofSheet, Sheet.commands_append read' read within, ← runAll_append]
    rfl
  · intro rule one other commands more seam isName stated stated' seams seams' within
    obtain ⟨apart, joint⟩ := Sheet.commands_blocks isName stated stated' seams seams' within
    unfold ofSheet
    rw [apart, joint]
    exact ⟨rfl, rfl⟩

/-- What is left out by a sheet that ends in a comment, and again by the one behind it, is
noted as a conflict.  Two blocks that leave out what one block leaves out are that block. -/
theorem ofSheet_append_omitted :
    ofSheet "omit x; // again" = .ok (runAll {} [.treat none ⟨.before, .label "x"⟩ .omitted]) ∧
    Sheet.commands "omit x;" = .ok [.treat none ⟨.before, .label "x"⟩ .omitted] ∧
    ofSheet ("omit x; // again" ++ "\n" ++ "omit x;") =
      .ok (runAll (runAll {} [.treat none ⟨.before, .label "x"⟩ .omitted])
        [.treat none ⟨.before, .label "x"⟩ .omitted]) ∧
    ofSheet (Sheet.joint ' ' "r" "omit x;" "omit y;")
      = ofSheet (Sheet.apart ' ' "r" "omit x;" "omit y;") := by
  have read : ofSheet "omit x; // again"
      = .ok (runAll {} [.treat none ⟨.before, .label "x"⟩ .omitted]) := by with_unfolding_all rfl
  have again : Sheet.commands "omit x;" = .ok [.treat none ⟨.before, .label "x"⟩ .omitted] := by
    with_unfolding_all rfl
  have one : Sheet.StatesFor "r" "omit x;" [.treat (some "r") ⟨.before, .label "x"⟩ .omitted] :=
    ⟨_, _, by with_unfolding_all rfl, by with_unfolding_all rfl, rfl, rfl⟩
  have other : Sheet.StatesFor "r" "omit y;" [.treat (some "r") ⟨.before, .label "y"⟩ .omitted] :=
    ⟨_, _, by with_unfolding_all rfl, by with_unfolding_all rfl, rfl, rfl⟩
  refine ⟨read, again, ofSheet_append.1 _ _ _ _ read again (by decide), ?_⟩
  exact (ofSheet_append.2 "r" _ _ _ _ ' ' ⟨'r', [], rfl, rfl, rfl⟩ one other
    ⟨rfl, .inr (by with_unfolding_all rfl)⟩ ⟨rfl, .inr (by with_unfolding_all rfl)⟩ (by decide)).2

end Style
end Reprint
