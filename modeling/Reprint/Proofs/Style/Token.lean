import Mathlib.Data.List.TakeWhile
import Reprint.Style.Token

/-!
# Tokens of texts that are put together

No token reaches across a blank or a line end.  So a text that is followed by one, and
then by another text, has its own tokens and then those of the other text
(`Lexes.append`).  Only a comment would go on, up to the next line end: what is put
behind a text that ends in a comment has to begin with a line end.

Where a text stands changes the offsets of its tokens, but not their kinds and not what
they say.  That is all a reader looks at.
-/

namespace Reprint.Token

/-- What readers look at of a token. -/
def face (t : Token) : TokenKind × String := (t.kind, t.text)

theorem kind_of_face {t t' : Token} (same : t'.face = t.face) : t'.kind = t.kind :=
  congrArg Prod.fst same

theorem text_of_face {t t' : Token} (same : t'.face = t.face) : t'.text = t.text :=
  congrArg Prod.snd same

/-- What readers look at of a list of tokens. -/
def faces (ts : List Token) : List (TokenKind × String) := ts.map face

/-! ## Pieces -/

theorem stringLength_cons {c : Char} (quote : c ≠ '"') (slash : c ≠ '\\') (cs : List Char) :
    stringLength (c :: cs) = ((stringLength cs).1 + 1, (stringLength cs).2) := by
  rw [stringLength]
  · exact quote
  · exact fun same _ => slash same
  · exact fun _ _ same _ => slash same

/-- What follows the closing quote of a string is no part of it. -/
theorem stringLength_append {cs : List Char} (closed : (stringLength cs).2) (rest : List Char) :
    stringLength (cs ++ rest) = stringLength cs := by
  fun_induction stringLength cs with
  | case1 | case3 | case4 => cases closed
  | case2 cs => simp [stringLength]
  | case5 c cs line n end' inner ih =>
    rw [inner] at ih
    simp only [List.cons_append, stringLength, if_neg line, ih closed]
  | case6 c cs quote single pair n end' inner ih =>
    have slash : c ≠ '\\' := by
      rintro rfl
      cases cs with
      | nil => exact single rfl rfl
      | cons d ds => exact pair d ds rfl rfl
    rw [inner] at ih
    rw [List.cons_append, stringLength_cons quote slash, ih closed]

theorem stringLength_lt {cs : List Char} (closed : (stringLength cs).2) :
    (stringLength cs).1 < cs.length := by
  fun_induction stringLength cs with
  | case1 | case3 | case4 => cases closed
  | case2 cs => simp
  | case5 c cs line n end' inner ih =>
    rw [inner] at ih
    have := ih closed
    simp only [List.length_cons]
    omega
  | case6 c cs quote single pair n end' inner ih =>
    rw [inner] at ih
    have := ih closed
    simp only [List.length_cons]
    omega

/-- Whether a text ends inside a comment. -/
def endsInComment : List Char → Bool
  | [] => false
  | c :: cs =>
    let more := (firstPiece c cs).2
    c == '/' && more == cs.length || endsInComment (cs.drop more)
termination_by cs => cs.length
decreasing_by simp only [List.length_drop, List.length_cons]; omega

/-- What can be put in front of a text: it ends in no comment, or the text begins with a
line end. -/
def Seams (cs : List Char) (seam : Char) : Prop :=
  isGap seam ∧ (seam = '\n' ∨ endsInComment cs = false)

theorem takeWhile_append_seam {p : Char → Bool} {seam : Char} (stops : p seam = false)
    (cs rest : List Char) : (cs ++ seam :: rest).takeWhile p = cs.takeWhile p := by
  induction cs with
  | nil => simp [stops]
  | cons c cs ih => simp only [List.cons_append, List.takeWhile_cons, ih]

theorem firstPiece_le (c : Char) (cs : List Char) (valid : (firstPiece c cs).1 ≠ .invalid) :
    (firstPiece c cs).2 ≤ cs.length := by
  have taken : ∀ p : Char → Bool, (cs.takeWhile p).length ≤ cs.length :=
    fun p => (List.takeWhile_sublist p).length_le
  unfold firstPiece at valid ⊢
  split_ifs at valid ⊢
  · exact Nat.zero_le _
  · split
    · exact taken _
    · exact Nat.zero_le _
  · exact taken _
  · exact taken _
  · cases inner : stringLength cs with
    | mk n closed =>
      cases closed with
      | false => simp [inner] at valid
      | true =>
        have shorter : (stringLength cs).1 < cs.length := stringLength_lt (by rw [inner])
        rw [inner] at shorter
        exact shorter
  · split <;> exact Nat.zero_le _

/-- What follows a piece behind a blank is no part of it. -/
theorem firstPiece_append {c : Char} {cs : List Char} {seam : Char} (seams : Seams (c :: cs) seam)
    (valid : (firstPiece c cs).1 ≠ .invalid) (rest : List Char) :
    firstPiece c (cs ++ seam :: rest) = firstPiece c cs := by
  obtain ⟨gap, closed⟩ := seams
  have stops : seam.isDigit = false ∧ isWordRest seam = false := by
    simp only [isGap, Bool.or_eq_true, beq_iff_eq] at gap
    obtain ((rfl | rfl) | rfl) | rfl := gap <;> exact ⟨rfl, rfl⟩
  unfold firstPiece at valid ⊢
  split_ifs at valid ⊢ with blank slash digit word quote
  · rfl
  · split at valid
    · next ds =>
      have same : ('/' :: ds ++ seam :: rest).takeWhile (· != '\n')
          = ('/' :: ds).takeWhile (· != '\n') := by
        obtain rfl | inside := closed
        · exact takeWhile_append_seam rfl _ rest
        · -- The comment ends in front of a line end of its own.
          rw [endsInComment, firstPiece, if_neg blank, if_pos slash, slash,
            Bool.or_eq_false_iff] at inside
          rw [List.takeWhile_append, if_neg (by simpa using inside.1)]
      rw [List.cons_append] at same ⊢
      rw [same]
      rfl
    · exact absurd rfl valid
  · rw [takeWhile_append_seam stops.1]
  · rw [takeWhile_append_seam stops.2]
  · cases inner : stringLength cs with
    | mk n closed =>
      cases closed with
      | false => simp [inner] at valid
      | true => rw [stringLength_append (by rw [inner]), inner]
  · rfl

/-! ## Whole texts -/

/-- The tokens of a text, as far as readers look at them. -/
inductive Lexes : List Char → List (TokenKind × String) → Prop
  | nil : Lexes [] []
  | gap {c : Char} {cs : List Char} {more : Nat} {fs : List (TokenKind × String)} :
      firstPiece c cs = (.gap, more) → Lexes (cs.drop more) fs → Lexes (c :: cs) fs
  | token {c : Char} {cs : List Char} {kind : TokenKind} {more : Nat} {fs : List (TokenKind × String)} :
      firstPiece c cs = (.token kind, more) → Lexes (cs.drop more) fs →
        Lexes (c :: cs) ((kind, .ofList (c :: cs.take more)) :: fs)

theorem lexes_of_lexFrom {offset : Nat} {cs : List Char} {ts : List Token}
    (lexed : lexFrom offset cs = .ok ts) : Lexes cs (faces ts) := by
  fun_induction lexFrom offset cs generalizing ts with
  | case1 =>
    obtain rfl := Except.ok.inj lexed
    exact .nil
  | case2 offset c cs more text stop first =>
    rename_i ih
    exact .gap first (ih lexed)
  | case3 offset c cs more text stop kind first =>
    rename_i ih
    cases behind : lexFrom stop (cs.drop more) with
    | error e =>
      rw [behind] at lexed
      cases lexed
    | ok rest =>
      rw [behind] at lexed
      obtain rfl := Except.ok.inj lexed
      exact .token first (ih behind)
  | case4 => cases lexed

/-- Wherever a text begins, it has the same tokens, as far as readers look at them. -/
theorem Lexes.exists_lexFrom {cs : List Char} {fs : List (TokenKind × String)} (lexes : Lexes cs fs)
    (offset : Nat) : ∃ ts, lexFrom offset cs = .ok ts ∧ faces ts = fs := by
  induction lexes generalizing offset with
  | nil => exact ⟨[], by rw [lexFrom], rfl⟩
  | @gap c cs more fs first _ ih =>
    obtain ⟨ts, lexed, same⟩ := ih (offset + Text.width (c :: cs.take more))
    refine ⟨ts, ?_, same⟩
    rw [lexFrom, first]
    exact lexed
  | @token c cs kind more fs first _ ih =>
    obtain ⟨ts, lexed, rfl⟩ := ih (offset + Text.width (c :: cs.take more))
    refine ⟨⟨kind, .ofList (c :: cs.take more), offset, offset + Text.width (c :: cs.take more)⟩ :: ts, ?_,
      rfl⟩
    rw [lexFrom, first]
    simp only [lexed]
    rfl

theorem Seams.drop {c : Char} {cs : List Char} {seam : Char} (seams : Seams (c :: cs) seam) :
    Seams (cs.drop (firstPiece c cs).2) seam := by
  refine ⟨seams.1, seams.2.imp_right fun inside => ?_⟩
  rw [endsInComment, Bool.or_eq_false_iff] at inside
  exact inside.2

/-- A text has its own tokens and then those of the text behind it. -/
theorem Lexes.append {cs rest : List Char} {seam : Char} {fs fs' : List (TokenKind × String)}
    (first : Lexes cs fs) (second : Lexes rest fs') (seams : Seams cs seam) :
    Lexes (cs ++ seam :: rest) (fs ++ fs') := by
  induction first with
  | nil =>
    have blank : firstPiece seam rest = (.gap, 0) := if_pos seams.1
    exact .gap blank second
  | @gap c cs more fs piece _ ih =>
    have valid : (firstPiece c cs).1 ≠ .invalid := by rw [piece]; exact nofun
    have inside : more ≤ cs.length := by simpa [piece] using firstPiece_le c cs valid
    refine .gap ((firstPiece_append seams valid _).trans piece) ?_
    have behind := seams.drop
    rw [piece] at behind
    rw [List.append_eq, List.drop_append_of_le_length inside]
    exact ih behind
  | @token c cs kind more fs piece _ ih =>
    have valid : (firstPiece c cs).1 ≠ .invalid := by rw [piece]; exact nofun
    have inside : more ≤ cs.length := by simpa [piece] using firstPiece_le c cs valid
    have behind := seams.drop
    rw [piece] at behind
    have text : cs.take more = (cs ++ seam :: rest).take more :=
      (List.take_append_of_le_length inside).symm
    rw [text]
    refine .token ((firstPiece_append seams valid _).trans piece) ?_
    rw [List.append_eq, List.drop_append_of_le_length inside]
    exact ih behind

end Reprint.Token
