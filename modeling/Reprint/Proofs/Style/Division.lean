import Reprint.Proofs.Style.Composition

/-!
# Tokens divide their text

What a kind of token is written as does not depend on how a text is read: `Writes` says it
for each kind.  Between the tokens stand blanks and comments, and a comment goes on to the
end of its line.  Where several texts of any kind begin at one place, the longest of them is
the token.

A text has at most one division of this sort, and its tokens are those that are read
(`lex_eq_ok_iff`).  `Parts` says the same piece by piece, in the order of the text.
-/

namespace Reprint

/-! ## What tokens are written as -/

/-- The character that a kind of token always is. -/
def TokenKind.mark? : TokenKind → Option Char
  | .leftBrace => some '\x7b'
  | .rightBrace => some '\x7d'
  | .leftParen => some '('
  | .rightParen => some ')'
  | .leftBracket => some '['
  | .rightBracket => some ']'
  | .semicolon => some ';'
  | .colon => some ':'
  | .comma => some ','
  | .number | .string | .word => none

/-- What stands between quotes: no quotes, and a backslash only with the character behind
it, which is no line end. -/
inductive Quotable : List Char → Prop
  | nil : Quotable []
  | plain {c : Char} {cs : List Char} : c ≠ '"' → c ≠ '\\' → Quotable cs → Quotable (c :: cs)
  | escape {c : Char} {cs : List Char} : c ≠ '\n' → Quotable cs → Quotable ('\\' :: c :: cs)

/-- The texts of a kind of token. -/
def TokenKind.Writes (kind : TokenKind) (text : List Char) : Prop :=
  match kind with
  | .number => text ≠ [] ∧ ∀ c ∈ text, c.isDigit
  | .word => ∃ c cs, text = c :: cs ∧ Token.isWordStart c ∧ ∀ d ∈ cs, Token.isWordRest d
  | .string => ∃ inner, Quotable inner ∧ text = '"' :: (inner ++ ['"'])
  | kind => ∃ c, kind.mark? = some c ∧ text = [c]

/-- The characters that make a longer token of the kind, put behind one. -/
def TokenKind.goesOn : TokenKind → Char → Bool
  | .number => Char.isDigit
  | .word => Token.isWordRest
  | _ => fun _ => false

namespace Token

/-- No token of a kind goes on in the text behind it. -/
def Ended (kind : TokenKind) (behind : List Char) : Prop := ∀ c ∈ behind.head?, kind.goesOn c = false

/-- Blanks and comments in front of a text.  A comment ends in front of a line end or with
the whole text. -/
inductive Gap : List Char → List Char → Prop
  | nil {behind : List Char} : Gap [] behind
  | blank {c : Char} {gap behind : List Char} : isGap c → Gap gap behind → Gap (c :: gap) behind
  | comment {said gap behind : List Char} :
      (∀ c ∈ said, c ≠ '\n') → (∀ c ∈ (gap ++ behind).head?, c = '\n') → Gap gap behind →
        Gap ('/' :: '/' :: (said ++ gap)) behind

end Token

/-! ## First characters -/

theorem punctuation?_eq_some_iff {c : Char} {kind : TokenKind} :
    Token.punctuation? c = some kind ↔ kind.mark? = some c := by
  constructor
  · intro punctuation
    unfold Token.punctuation? at punctuation
    split at punctuation <;> cases punctuation <;> rfl
  · cases kind <;> rintro ⟨⟩ <;> rfl

namespace Token

/-- The kind of token that a character begins. -/
def kindFrom? (c : Char) : Option TokenKind :=
  if c.isDigit then some .number
  else if isWordStart c then some .word
  else if c = '"' then some .string
  else punctuation? c

variable {kind kind' : TokenKind} {c : Char} {cs text behind gap : List Char} {more : Nat}

theorem kindFrom?_of_writes (writes : kind.Writes (c :: cs)) : kindFrom? c = some kind := by
  cases kind with
  | number => exact if_pos (writes.2 c List.mem_cons_self)
  | word =>
    obtain ⟨_, _, ⟨⟩, start, -⟩ := writes
    rw [kindFrom?, if_neg (by simp [not_isDigit_of_isWordStart start]), if_pos start]
  | string =>
    obtain ⟨inner, -, ⟨⟩⟩ := writes
    rfl
  | _ =>
    obtain ⟨_, ⟨⟩, ⟨⟩⟩ := writes
    rfl

/-- Characters that begin tokens stand in no gap. -/
theorem not_gap_of_kindFrom? (begins : kindFrom? c = some kind) : isGap c = false ∧ (c == '/') = false := by
  constructor
  · by_contra blank
    simp only [isGap, Bool.not_eq_false, Bool.or_eq_true, beq_iff_eq] at blank
    obtain ((rfl | rfl) | rfl) | rfl := blank <;> cases begins
  · by_contra slash
    rw [Bool.not_eq_false, beq_iff_eq] at slash
    subst slash
    cases begins

/-! ## Strings -/

theorem stringLength_quotable {inner : List Char} (quotable : Quotable inner) (behind : List Char) :
    stringLength (inner ++ '"' :: behind) = (inner.length, true) := by
  induction quotable with
  | nil => rfl
  | plain quote slash _ ih => rw [List.cons_append, stringLength_cons quote slash, ih, List.length_cons]
  | escape line _ ih =>
    rw [List.cons_append, List.cons_append, stringLength, if_neg line, ih]
    rfl

theorem exists_of_stringLength {count : Nat} (closed : stringLength cs = (count, true)) :
    ∃ inner behind, Quotable inner ∧ inner.length = count ∧ cs = inner ++ '"' :: behind := by
  fun_induction stringLength cs generalizing count with
  | case1 | case3 | case4 => cases closed
  | case2 cs =>
    obtain ⟨rfl, -⟩ := Prod.mk.inj closed
    exact ⟨[], cs, .nil, rfl, rfl⟩
  | case5 c cs line n end' inner ih =>
    obtain ⟨rfl, rfl⟩ := Prod.mk.inj closed
    obtain ⟨text, behind, quotable, rfl, rfl⟩ := ih inner
    exact ⟨'\\' :: c :: text, behind, .escape line quotable, rfl, rfl⟩
  | case6 c cs quote single pair n end' inner ih =>
    obtain ⟨rfl, rfl⟩ := Prod.mk.inj closed
    obtain ⟨text, behind, quotable, rfl, rfl⟩ := ih inner
    have slash : c ≠ '\\' := by
      rintro rfl
      cases text with
      | nil => exact pair '"' behind rfl rfl
      | cons d ds => exact pair d _ rfl rfl
    exact ⟨c :: text, behind, .plain quote slash quotable, rfl, rfl⟩

/-! ## Pieces -/

theorem takeWhile_of_ended {p : Char → Bool} (inside : ∀ c ∈ cs, p c) (ended : ∀ c ∈ behind.head?, p c = false) :
    (cs ++ behind).takeWhile p = cs := by
  rw [List.takeWhile_append_of_pos inside]
  cases behind with
  | nil => rw [List.takeWhile_nil, List.append_nil]
  | cons c rest => rw [List.takeWhile_cons_of_neg (by simp [ended c rfl]), List.append_nil]

theorem ended_drop_takeWhile (p : Char → Bool) (cs : List Char) :
    ∀ d ∈ (cs.drop (cs.takeWhile p).length).head?, p d = false := by
  induction cs with
  | nil => exact nofun
  | cons c cs ih =>
    by_cases inside : p c
    · rwa [List.takeWhile_cons_of_pos inside]
    · rw [List.takeWhile_cons_of_neg inside]
      rintro _ ⟨⟩
      exact Bool.eq_false_iff.2 inside

/-- A text of some kind that does not go on is the first piece. -/
theorem firstPiece_of_writes (writes : kind.Writes (c :: cs)) (ended : Ended kind behind) :
    firstPiece c (cs ++ behind) = (.token kind, cs.length) := by
  have begins := kindFrom?_of_writes writes
  obtain ⟨blank, slash⟩ := not_gap_of_kindFrom? begins
  cases kind with
  | number =>
    have digit : c.isDigit := writes.2 c List.mem_cons_self
    have all : (cs ++ behind).takeWhile Char.isDigit = cs :=
      takeWhile_of_ended (fun d member => writes.2 d (List.mem_cons_of_mem c member)) ended
    simp only [firstPiece, blank, slash, digit, all, Bool.false_eq_true, if_false, if_true]
  | word =>
    obtain ⟨_, _, ⟨⟩, start, rest⟩ := writes
    have all : (cs ++ behind).takeWhile isWordRest = cs := takeWhile_of_ended rest ended
    simp only [firstPiece, blank, slash, not_isDigit_of_isWordStart start, start, all, Bool.false_eq_true,
      if_false, if_true]
  | string =>
    obtain ⟨inner, quotable, ⟨⟩⟩ := writes
    have closed : stringLength (inner ++ ['"'] ++ behind) = (inner.length, true) := by
      rw [List.append_assoc]
      exact stringLength_quotable quotable behind
    unfold firstPiece
    rw [closed, List.length_append]
    rfl
  | _ =>
    obtain ⟨_, ⟨⟩, ⟨⟩⟩ := writes
    rfl

/-- A piece that is a token is a text of its kind and does not go on. -/
theorem writes_of_firstPiece (piece : firstPiece c cs = (.token kind, more)) :
    kind.Writes (c :: cs.take more) ∧ Ended kind (cs.drop more) := by
  unfold firstPiece at piece
  split_ifs at piece with blank slash digit start quote
  · cases piece
  · split at piece <;> cases piece
  · obtain ⟨⟨⟩, rfl⟩ := Prod.mk.inj piece
    refine ⟨⟨List.cons_ne_nil _ _, List.forall_mem_cons.2 ⟨digit, ?_⟩⟩, ended_drop_takeWhile _ cs⟩
    rw [Matching.take_length_takeWhile]
    exact fun d => List.mem_takeWhile_imp
  · obtain ⟨⟨⟩, rfl⟩ := Prod.mk.inj piece
    refine ⟨⟨c, _, rfl, start, ?_⟩, ended_drop_takeWhile _ cs⟩
    rw [Matching.take_length_takeWhile]
    exact fun d => List.mem_takeWhile_imp
  · split at piece
    · next count closed =>
      obtain ⟨⟨⟩, rfl⟩ := Prod.mk.inj piece
      obtain ⟨inner, behind, quotable, rfl, rfl⟩ := exists_of_stringLength closed
      obtain rfl := beq_iff_eq.1 quote
      have text : (inner ++ '"' :: behind).take (inner.length + 1) = inner ++ ['"'] := by
        rw [List.take_length_add_append]
        rfl
      exact ⟨⟨inner, quotable, congrArg _ text⟩, fun _ _ => rfl⟩
    · cases piece
  · split at piece
    · next punctuation =>
      obtain ⟨⟨⟩, rfl⟩ := Prod.mk.inj piece
      have mark := punctuation?_eq_some_iff.1 punctuation
      cases kind with
      | number | word | string => cases mark
      | _ => exact ⟨⟨c, mark, rfl⟩, fun _ _ => rfl⟩
    · cases piece

theorem exists_cons_of_writes (writes : kind.Writes text) : ∃ c cs, text = c :: cs := by
  cases kind with
  | number => exact List.exists_cons_of_ne_nil writes.1
  | word =>
    obtain ⟨c, cs, rfl, -⟩ := writes
    exact ⟨c, cs, rfl⟩
  | string =>
    obtain ⟨inner, -, rfl⟩ := writes
    exact ⟨_, _, rfl⟩
  | _ =>
    obtain ⟨c, -, rfl⟩ := writes
    exact ⟨c, [], rfl⟩

/-- A front of two texts that is longer than the first one reaches into the second one. -/
theorem exists_mem_of_longer (front : cs <+: text ++ behind) (longer : text.length < cs.length) :
    ∃ d ∈ behind.head?, d ∈ cs := by
  obtain ⟨rest, same⟩ := front
  obtain ⟨short, rfl, -⟩ | ⟨more, rfl, rfl⟩ := List.append_eq_append_iff.1 same
  · rw [List.length_append] at longer
    omega
  · cases more with
    | nil =>
      rw [List.append_nil] at longer
      exact absurd longer (Nat.lt_irrefl _)
    | cons d more => exact ⟨d, rfl, List.mem_append_right _ List.mem_cons_self⟩

/-- The longest text of any kind that begins at a place is the one that does not go on. -/
theorem length_le_of_writes (writes : kind.Writes text) (ended : Ended kind behind)
    (writes' : kind'.Writes cs) (front : cs <+: text ++ behind) : cs.length ≤ text.length := by
  obtain ⟨c, text, rfl⟩ := exists_cons_of_writes writes
  obtain ⟨c', cs, rfl⟩ := exists_cons_of_writes writes'
  rw [List.cons_append] at front
  obtain ⟨rfl, inside⟩ := List.cons_prefix_cons.1 front
  obtain rfl : kind' = kind :=
    Option.some.inj ((kindFrom?_of_writes writes').symm.trans (kindFrom?_of_writes writes))
  refine Nat.succ_le_succ (Nat.not_lt.1 fun longer => ?_)
  obtain ⟨d, first, member⟩ := exists_mem_of_longer inside longer
  have stops : kind'.goesOn d = false := ended d first
  cases kind' with
  | number =>
    have digit : d.isDigit := writes'.2 d (List.mem_cons_of_mem _ member)
    exact absurd (digit.symm.trans stops) (by decide)
  | word =>
    obtain ⟨_, _, ⟨⟩, -, rest⟩ := writes'
    exact absurd ((rest d member).symm.trans stops) (by decide)
  | string =>
    obtain ⟨inner, quotable, ⟨⟩⟩ := writes
    obtain ⟨inner', quotable', ⟨⟩⟩ := writes'
    obtain ⟨rest, same⟩ := inside
    -- Both are closed by the first quote that can close them.
    have length := stringLength_quotable quotable behind
    have length' := stringLength_quotable quotable' rest
    rw [List.append_assoc, List.append_assoc, List.singleton_append, List.singleton_append] at same
    rw [same, length] at length'
    rw [List.length_append, List.length_append, (Prod.mk.inj length').1] at longer
    exact Nat.lt_irrefl _ longer
  | _ =>
    obtain ⟨_, -, ⟨⟩⟩ := writes'
    exact absurd member List.not_mem_nil

/-- A piece that is a gap is one in front of what follows it. -/
theorem Gap.of_firstPiece (piece : firstPiece c cs = (.gap, more)) (rest : cs.drop more = gap ++ behind)
    (further : Gap gap behind) : Gap (c :: (cs.take more ++ gap)) behind := by
  unfold firstPiece at piece
  split_ifs at piece with blank slash digit start quote
  · obtain ⟨-, rfl⟩ := Prod.mk.inj piece
    exact .blank blank further
  · split at piece
    · next said =>
      obtain ⟨-, rfl⟩ := Prod.mk.inj piece
      obtain rfl := beq_iff_eq.1 slash
      have ended := ended_drop_takeWhile (· != '\n') ('/' :: said)
      rw [rest] at ended
      rw [Matching.take_length_takeWhile, List.takeWhile_cons_of_pos rfl]
      refine .comment ?_ ?_ further
      · exact fun d member => bne_iff_ne.1 (List.mem_takeWhile_imp (p := (· != '\n')) member)
      · intro d first
        simpa using ended d first
    · cases piece
  · cases piece
  · cases piece
  · split at piece <;> cases piece
  · split at piece <;> cases piece

/-! ## Texts piece by piece -/

theorem lexFrom_of_gap (piece : firstPiece c cs = (.gap, more)) (offset : Nat) :
    lexFrom offset (c :: cs) = lexFrom (offset + Text.width (c :: cs.take more)) (cs.drop more) := by
  rw [lexFrom, piece]

theorem lexFrom_of_token (piece : firstPiece c cs = (.token kind, more)) (offset : Nat) :
    lexFrom offset (c :: cs) =
      (lexFrom (offset + Text.width (c :: cs.take more)) (cs.drop more)).map
        (⟨kind, .ofList (c :: cs.take more), offset, offset + Text.width (c :: cs.take more)⟩ :: ·) := by
  rw [lexFrom, piece]
  dsimp only
  cases lexFrom (offset + Text.width (c :: cs.take more)) (cs.drop more) <;> rfl

theorem lexFrom_gap (gap : Gap text behind) (offset : Nat) :
    lexFrom offset (text ++ behind) = lexFrom (offset + Text.width text) behind := by
  induction gap generalizing offset with
  | nil => rfl
  | @blank c gap behind blank _ ih =>
    have piece : firstPiece c (gap ++ behind) = (.gap, 0) := if_pos blank
    rw [List.cons_append, lexFrom_of_gap piece, List.take_zero, List.drop_zero, ih, Nat.add_assoc]
    rfl
  | @comment said gap behind line ended _ ih =>
    have all : ('/' :: (said ++ (gap ++ behind))).takeWhile (· != '\n') = '/' :: said := by
      show ('/' :: said ++ (gap ++ behind)).takeWhile _ = _
      refine takeWhile_of_ended (List.forall_mem_cons.2 ⟨rfl, ?_⟩) ?_
      · exact fun d member => bne_iff_ne.2 (line d member)
      · intro d first
        simpa using ended d first
    have piece : firstPiece '/' ('/' :: (said ++ (gap ++ behind))) = (.gap, said.length + 1) := by
      show (Piece.gap, _) = _
      rw [all, List.length_cons]
    rw [List.cons_append, List.cons_append, List.append_assoc, lexFrom_of_gap piece, List.take_succ_cons,
      List.drop_succ_cons, List.take_left, List.drop_left, ih, Nat.add_assoc, ← Text.width_append]
    rfl

/-- A text of some kind that does not go on is the first token. -/
theorem lexFrom_writes {text : String} (writes : kind.Writes text.toList) (ended : Ended kind behind)
    (offset : Nat) :
    lexFrom offset (text.toList ++ behind) =
      (lexFrom (offset + Text.width text.toList) behind).map
        (⟨kind, text, offset, offset + Text.width text.toList⟩ :: ·) := by
  obtain ⟨c, cs, chars⟩ := exists_cons_of_writes writes
  have same : text = .ofList (c :: cs) := by rw [← chars, String.ofList_toList]
  rw [chars] at writes
  rw [chars, List.cons_append, lexFrom_of_token (firstPiece_of_writes writes ended), List.take_left,
    List.drop_left, same]

/-- A text with its tokens, which begin at an offset: in front of each of them, and behind
the last one, stands a gap. -/
inductive Parts : Nat → List Char → List Token → Prop
  | done {offset : Nat} {gap : List Char} : Gap gap [] → Parts offset gap []
  | token {offset : Nat} {gap text behind : List Char} {kind : TokenKind} {ts : List Token} :
      Gap gap (text ++ behind) → kind.Writes text → Ended kind behind →
      Parts (offset + Text.width gap + Text.width text) behind ts →
        Parts offset (gap ++ (text ++ behind))
          (⟨kind, .ofList text, offset + Text.width gap, offset + Text.width gap + Text.width text⟩ :: ts)

/-- A piece that is a gap, in front of a text with its tokens. -/
theorem Parts.behindGap {offset : Nat} {ts : List Token} (piece : firstPiece c cs = (.gap, more))
    (parts : Parts (offset + Text.width (c :: cs.take more)) (cs.drop more) ts) :
    Parts offset (c :: cs) ts := by
  have split : c :: cs = c :: cs.take more ++ cs.drop more := by
    rw [List.cons_append, List.take_append_drop]
  generalize rest : cs.drop more = left at parts split
  cases parts with
  | done gap =>
    rw [split]
    exact .done (.of_firstPiece piece (rest.trans (List.append_nil _).symm) gap)
  | @token _ gap text behind kind ts gapped writes ended parts =>
    rw [split, ← List.append_assoc, Nat.add_assoc, ← Text.width_append]
    refine .token ?_ writes ended ?_
    · exact .of_firstPiece piece rest gapped
    · rwa [Text.width_append, ← Nat.add_assoc]

theorem lexFrom_eq_ok_iff {offset : Nat} {ts : List Token} :
    lexFrom offset cs = .ok ts ↔ Parts offset cs ts := by
  constructor
  · intro lexed
    fun_induction lexFrom offset cs generalizing ts with
    | case1 =>
      obtain rfl := Except.ok.inj lexed
      exact .done .nil
    | case2 offset c cs more text stop piece =>
      rename_i ih
      exact .behindGap piece (ih lexed)
    | case3 offset c cs more text stop kind piece =>
      rename_i ih
      obtain ⟨rest, behind, given⟩ := exists_of_bind_eq_ok lexed
      obtain rfl := Except.ok.inj given
      obtain ⟨writes, ended⟩ := writes_of_firstPiece piece
      have parts := Parts.token .nil writes ended (ih behind)
      rwa [List.nil_append, List.cons_append, List.take_append_drop] at parts
    | case4 => cases lexed
  · intro parts
    induction parts with
    | @done offset gap gapped =>
      rw [← List.append_nil gap, lexFrom_gap gapped, lexFrom]
    | @token offset gap text behind kind ts gapped writes ended _ ih =>
      rw [← String.toList_ofList (l := text)] at writes
      have first := lexFrom_writes writes ended (offset + Text.width gap)
      rw [String.toList_ofList, ih] at first
      rw [lexFrom_gap gapped, first]
      rfl

end Token

/-! ## Places of tokens and gaps -/

/-- There is one way to cut a text at an offset. -/
theorem Text.eq_of_width {before before' rest rest' : List Char} (same : before ++ rest = before' ++ rest')
    (width : width before = width before') : before = before' ∧ rest = rest' := by
  have behind : some rest = some rest' := by
    rw [← dropBytes?_append before rest, same, width, dropBytes?_append]
  obtain rfl := Option.some.inj behind
  exact ⟨List.append_cancel_right same, rfl⟩

theorem Text.Stands.slice? {source : String} {text behind : List Char} {s : Span}
    (stands : Stands source.toList s.start s.stop text behind) :
    s.slice? source = some (.ofList text) := by
  obtain ⟨before, split, start, stop⟩ := stands
  rw [Span.slice?, split, stop, start, slice?_append]
  rfl

/-- The offsets between which nothing but gaps stand, if tokens begin behind an offset. -/
def Token.gapsBetween (offset stop : Nat) (ts : List Token) : List (Nat × Nat) :=
  (offset :: ts.map (·.span.stop)).zip (ts.map (·.span.start) ++ [stop])

/-- How tokens divide a text behind an offset. -/
structure Token.Divides (source : String) (offset : Nat) (ts : List Token) : Prop where
  inside : ∀ t ∈ ts, offset ≤ t.span.start
  nonempty : ∀ t ∈ ts, t.span.start < t.span.stop
  ordered : ts.Pairwise fun t u => t.span.stop ≤ u.span.start
  slices : ∀ t ∈ ts, t.span.slice? source = some t.text
  writes : ∀ t ∈ ts, t.kind.Writes t.text.toList
  /-- No token goes on behind its span, and no text of any kind that begins with it is longer. -/
  ended : ∀ t ∈ ts, ∃ behind, Text.Stands source.toList t.span.start t.span.stop t.text.toList behind ∧
    Ended t.kind behind ∧ ∀ (kind : TokenKind) (text : List Char), kind.Writes text →
      text <+: t.text.toList ++ behind → text.length ≤ t.text.toList.length
  gaps : ∀ ends ∈ gapsBetween offset (Text.width source.toList) ts,
    ∃ gap behind, Text.Stands source.toList ends.1 ends.2 gap behind ∧ Gap gap behind

namespace Token

theorem divides_of_parts {source : String} {offset : Nat} {cs : List Char} {ts : List Token}
    (parts : Parts offset cs ts) {before : List Char} (split : source.toList = before ++ cs)
    (start : offset = Text.width before) : Divides source offset ts := by
  induction parts generalizing before with
  | @done offset gap gapped =>
    refine ⟨nofun, nofun, .nil, nofun, nofun, nofun, List.forall_mem_singleton.2 ?_⟩
    refine ⟨gap, [], ⟨before, by rw [List.append_nil, split], start, ?_⟩, gapped⟩
    rw [split, Text.width_append, start]
  | @token offset gap text behind kind ts gapped writes ended _ ih =>
    have own : Text.Stands source.toList (offset + Text.width gap)
        (offset + Text.width gap + Text.width text) text behind := by
      refine ⟨before ++ gap, ?_, ?_, rfl⟩
      · rw [split, List.append_assoc]
      · rw [Text.width_append, start]
    have further : source.toList = before ++ gap ++ text ++ behind := by
      rw [split]
      simp only [List.append_assoc]
    have rest := ih further (by rw [Text.width_append, Text.width_append, start])
    have positive : 0 < Text.width text := by
      obtain ⟨c, cs, rfl⟩ := exists_cons_of_writes writes
      exact Nat.add_pos_left c.utf8Size_pos _
    have same : (String.ofList text).toList = text := String.toList_ofList
    refine ⟨?_, ?_, ?_, ?_, ?_, ?_, ?_⟩
    · refine List.forall_mem_cons.2 ⟨Nat.le_add_right _ _, fun t member => ?_⟩
      exact (Nat.le_add_right _ _).trans ((Nat.le_add_right _ _).trans (rest.inside t member))
    · exact List.forall_mem_cons.2 ⟨Nat.lt_add_of_pos_right positive, rest.nonempty⟩
    · exact List.pairwise_cons.2 ⟨rest.inside, rest.ordered⟩
    · exact List.forall_mem_cons.2 ⟨own.slice?, rest.slices⟩
    · exact List.forall_mem_cons.2 ⟨same.symm ▸ writes, rest.writes⟩
    · refine List.forall_mem_cons.2 ⟨⟨behind, ?_, ended, ?_⟩, rest.ended⟩
      · rwa [same]
      · rw [same]
        exact fun _ _ writes' front => length_le_of_writes writes ended writes' front
    · exact List.forall_mem_cons.2 ⟨⟨gap, text ++ behind, ⟨before, split, start, rfl⟩, gapped⟩, rest.gaps⟩

theorem Divides.tail {source : String} {offset : Nat} {t : Token} {ts : List Token}
    (divides : Divides source offset (t :: ts)) : Divides source t.span.stop ts where
  inside := (List.pairwise_cons.1 divides.ordered).1
  nonempty := (List.forall_mem_cons.1 divides.nonempty).2
  ordered := (List.pairwise_cons.1 divides.ordered).2
  slices := (List.forall_mem_cons.1 divides.slices).2
  writes := (List.forall_mem_cons.1 divides.writes).2
  ended := (List.forall_mem_cons.1 divides.ended).2
  gaps := (List.forall_mem_cons.1 divides.gaps).2

theorem parts_of_divides {source : String} {ts : List Token} {before cs : List Char}
    (split : source.toList = before ++ cs) (divides : Divides source (Text.width before) ts) :
    Parts (Text.width before) cs ts := by
  induction ts generalizing before cs with
  | nil =>
    obtain ⟨gap, behind, ⟨before', split', start, stop⟩, gapped⟩ :=
      List.forall_mem_singleton.1 divides.gaps
    obtain ⟨rfl, rfl⟩ := Text.eq_of_width (split.symm.trans split') start
    -- The gap reaches to the end of the text.
    have nothing : Text.width behind = 0 := by
      rw [split, Text.width_append, Text.width_append] at stop
      omega
    obtain rfl := Matching.width_eq_zero.1 nothing
    rw [List.append_nil]
    exact .done gapped
  | cons t ts ih =>
    obtain ⟨gap, behind, ⟨before', split', start, stop⟩, gapped⟩ := (List.forall_mem_cons.1 divides.gaps).1
    obtain ⟨rfl, rfl⟩ := Text.eq_of_width (split.symm.trans split') start
    obtain ⟨behind', ⟨before', split'', start', stop'⟩, stops, -⟩ := divides.ended t List.mem_cons_self
    rw [split, ← List.append_assoc] at split''
    have front : Text.width (before ++ gap) = Text.width before' := by
      rw [← start', Text.width_append]
      exact stop.symm
    obtain ⟨rfl, rfl⟩ := Text.eq_of_width split'' front
    have rest := divides.tail
    obtain ⟨kind, text, first, last⟩ := t
    obtain rfl : first = Text.width before + Text.width gap := stop
    obtain rfl : last = Text.width before + Text.width gap + Text.width text.toList := stop'
    have further : source.toList = before ++ gap ++ text.toList ++ behind' := by
      rw [split]
      simp only [List.append_assoc]
    have parts := ih further (by rw [Text.width_append, Text.width_append]; exact rest)
    rw [Text.width_append, Text.width_append] at parts
    have token := Parts.token gapped (divides.writes _ List.mem_cons_self) stops parts
    rwa [String.ofList_toList] at token

/-- The tokens of a text within the limit are those that divide it: each of them is a longest
text of its kind, they stand one behind the other, and nothing but blanks and comments stands
in front of them, between them and behind them. -/
theorem lex_eq_ok_iff {source : String} {ts : List Token} :
    lex source = .ok ts ↔ Text.width source.toList ≤ Span.limit ∧ Divides source 0 ts := by
  unfold lex
  dsimp only
  split_ifs with long
  · exact ⟨nofun, fun ⟨within, _⟩ => absurd long (Nat.not_lt.2 within)⟩
  · rw [lexFrom_eq_ok_iff]
    exact ⟨fun parts => ⟨Nat.not_lt.1 long, @divides_of_parts _ _ _ _ parts [] rfl rfl⟩,
      fun ⟨_, divides⟩ => @parts_of_divides _ _ [] _ rfl divides⟩

/-- Two slashes in a string begin no comment, and a quote in a comment begins no string. -/
example : lex "a1\"//\\\"\"//\"\n2" = .ok
    [⟨.word, "a1", 0, 2⟩, ⟨.string, "\"//\\\"\"", 2, 8⟩, ⟨.number, "2", 12, 13⟩] := by
  with_unfolding_all rfl

end Token

end Reprint
